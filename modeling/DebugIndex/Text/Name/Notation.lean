/-!
# The names of the old kana, musical notation, letters for formulas, and written signs

The names that Unicode 14 gives to the code points from U+1B000 to U+1DF1E.  A row
begins with its first code point and what its names have in common; the endings
of the names of that point and those behind it follow, each after a bar.
-/

namespace DebugIndex
namespace Text
namespace Name

/-- The rows of the table, in ascending order. -/
def notationRows : List String :=
  ["1b000 |KATAKANA LETTER ARCHAIC E|HIRAGANA LETTER ARCHAIC YE",
    "1b002 HENTAIGANA LETTER |A-1|A-2|A-3|A-WO|I-1|I-2|I-3|I-4|U-1|U-2|U-3|U-4",
    "1b00e HENTAIGANA LETTER |U-5|E-2|E-3|E-4|E-5|E-6|O-1|O-2|O-3|KA-1|KA-2|KA-3|KA-4|KA-5|KA-6",
    "1b01d HENTAIGANA LETTER |KA-7|KA-8|KA-9|KA-10|KA-11|KA-KE|KI-1|KI-2|KI-3|KI-4|KI-5|KI-6|KI-7",
    "1b02a HENTAIGANA LETTER |KI-8|KU-1|KU-2|KU-3|KU-4|KU-5|KU-6|KU-7|KE-1|KE-2|KE-3|KE-4|KE-5",
    "1b037 HENTAIGANA LETTER |KE-6|KO-1|KO-2|KO-3|KO-KI|SA-1|SA-2|SA-3|SA-4|SA-5|SA-6|SA-7|SA-8",
    "1b044 HENTAIGANA LETTER |SI-1|SI-2|SI-3|SI-4|SI-5|SI-6|SU-1|SU-2|SU-3|SU-4|SU-5|SU-6|SU-7",
    "1b051 HENTAIGANA LETTER |SU-8|SE-1|SE-2|SE-3|SE-4|SE-5|SO-1|SO-2|SO-3|SO-4|SO-5|SO-6|SO-7",
    "1b05e HENTAIGANA LETTER |TA-1|TA-2|TA-3|TA-4|TI-1|TI-2|TI-3|TI-4|TI-5|TI-6|TI-7|TU-1|TU-2",
    "1b06b HENTAIGANA LETTER |TU-3|TU-4|TU-TO|TE-1|TE-2|TE-3|TE-4|TE-5|TE-6|TE-7|TE-8|TE-9|TO-1",
    "1b078 HENTAIGANA LETTER |TO-2|TO-3|TO-4|TO-5|TO-6|TO-RA|NA-1|NA-2|NA-3|NA-4|NA-5|NA-6|NA-7",
    "1b085 HENTAIGANA LETTER |NA-8|NA-9|NI-1|NI-2|NI-3|NI-4|NI-5|NI-6|NI-7|NI-TE|NU-1|NU-2|NU-3",
    "1b092 HENTAIGANA LETTER |NE-1|NE-2|NE-3|NE-4|NE-5|NE-6|NE-KO|NO-1|NO-2|NO-3|NO-4|NO-5|HA-1",
    "1b09f HENTAIGANA LETTER |HA-2|HA-3|HA-4|HA-5|HA-6|HA-7|HA-8|HA-9|HA-10|HA-11|HI-1|HI-2|HI-3",
    "1b0ac HENTAIGANA LETTER |HI-4|HI-5|HI-6|HI-7|HU-1|HU-2|HU-3|HE-1|HE-2|HE-3|HE-4|HE-5|HE-6",
    "1b0b9 HENTAIGANA LETTER |HE-7|HO-1|HO-2|HO-3|HO-4|HO-5|HO-6|HO-7|HO-8|MA-1|MA-2|MA-3|MA-4",
    "1b0c6 HENTAIGANA LETTER |MA-5|MA-6|MA-7|MI-1|MI-2|MI-3|MI-4|MI-5|MI-6|MI-7|MU-1|MU-2|MU-3",
    "1b0d3 HENTAIGANA LETTER |MU-4|ME-1|ME-2|ME-MA|MO-1|MO-2|MO-3|MO-4|MO-5|MO-6|YA-1|YA-2|YA-3",
    "1b0e0 HENTAIGANA LETTER |YA-4|YA-5|YA-YO|YU-1|YU-2|YU-3|YU-4|YO-1|YO-2|YO-3|YO-4|YO-5|YO-6",
    "1b0ed HENTAIGANA LETTER |RA-1|RA-2|RA-3|RA-4|RI-1|RI-2|RI-3|RI-4|RI-5|RI-6|RI-7|RU-1|RU-2",
    "1b0fa HENTAIGANA LETTER |RU-3|RU-4|RU-5|RU-6|RE-1|RE-2|RE-3|RE-4|RO-1|RO-2|RO-3|RO-4|RO-5",
    "1b107 HENTAIGANA LETTER |RO-6|WA-1|WA-2|WA-3|WA-4|WA-5|WI-1|WI-2|WI-3|WI-4|WI-5|WE-1|WE-2",
    "1b114 HENTAIGANA LETTER |WE-3|WE-4|WO-1|WO-2|WO-3|WO-4|WO-5|WO-6|WO-7|N-MU-MO-1|N-MU-MO-2",
    "1b11f |HIRAGANA LETTER ARCHAIC WU",
    "1b120 KATAKANA LETTER ARCHAIC |YI|YE|WU",
    "1b150 HIRAGANA LETTER SMALL |WI|WE|WO",
    "1b164 KATAKANA LETTER SMALL |WI|WE|WO|N",
    "1bc00 DUPLOYAN LETTER |H|X|P|T|F|K|L|B|D|V|G|R|P N|D S|F N|K M|R S|TH|SLOAN DH|DH|KK|SLOAN J",
    "1bc16 DUPLOYAN LETTER |HL|LH|RH|M|N|J|S|M N|N M|J M|S J|M WITH DOT|N WITH DOT|J WITH DOT",
    "1bc24 DUPLOYAN LETTER |J WITH DOTS INSIDE AND ABOVE|S WITH DOT|S WITH DOT BELOW|M S",
    "1bc28 DUPLOYAN LETTER |N S|J S|S S|M N S|N M S|J M S|S J S|J S WITH DOT|J N|J N S|S T|S T R",
    "1bc34 DUPLOYAN LETTER |S P|S P R|T S|T R S|W|WH|W R|S N|S M|K R S|G R S|S K|S K R|A|SLOAN OW",
    "1bc43 DUPLOYAN LETTER |OA|O|AOU|I|E|IE|SHORT I|UI|EE|SLOAN EH|ROMANIAN I|SLOAN EE|LONG I|YE",
    "1bc51 DUPLOYAN LETTER |U|EU|XW|U N|LONG U|ROMANIAN U|UH|SLOAN U|OOH|OW|OU|WA|WO|WI|WEI|WOW",
    "1bc61 DUPLOYAN LETTER NASAL |U|O|I|A",
    "1bc65 DUPLOYAN LETTER |PERNIN AN|PERNIN AM|SLOAN EN|SLOAN AN|SLOAN ON|VOCALIC M",
    "1bc70 |DUPLOYAN AFFIX LEFT HORIZONTAL SECANT",
    "1bc71 DUPLOYAN AFFIX |MID HORIZONTAL SECANT|RIGHT HORIZONTAL SECANT|LOW VERTICAL SECANT",
    "1bc74 DUPLOYAN AFFIX |MID VERTICAL SECANT|HIGH VERTICAL SECANT|ATTACHED SECANT",
    "1bc77 DUPLOYAN AFFIX ATTACHED |LEFT-TO-RIGHT SECANT|TANGENT|TAIL|E HOOK|I HOOK|TANGENT HOOK",
    "1bc80 DUPLOYAN AFFIX HIGH |ACUTE|TIGHT ACUTE|GRAVE|LONG GRAVE|DOT|CIRCLE|LINE|WAVE|VERTICAL",
    "1bc90 |DUPLOYAN AFFIX LOW ACUTE",
    "1bc91 DUPLOYAN AFFIX LOW |TIGHT ACUTE|GRAVE|LONG GRAVE|DOT|CIRCLE|LINE|WAVE|VERTICAL|ARROW",
    "1bc9c |DUPLOYAN SIGN O WITH CROSS",
    "1bc9d DUPLOYAN |THICK LETTER SELECTOR|DOUBLE MARK|PUNCTUATION CHINOOK FULL STOP",
    "1bca0 SHORTHAND FORMAT |LETTER OVERLAP|CONTINUING OVERLAP|DOWN STEP|UP STEP",
    "1cf00 ZNAMENNY COMBINING MARK |GORAZDO NIZKO S KRYZHEM ON LEFT|NIZKO S KRYZHEM ON LEFT",
    "1cf02 ZNAMENNY COMBINING MARK |TSATA ON LEFT|GORAZDO NIZKO ON LEFT|NIZKO ON LEFT",
    "1cf05 ZNAMENNY COMBINING MARK |SREDNE ON LEFT|MALO POVYSHE ON LEFT|POVYSHE ON LEFT",
    "1cf08 ZNAMENNY COMBINING MARK |VYSOKO ON LEFT|MALO POVYSHE S KHOKHLOM ON LEFT",
    "1cf0a ZNAMENNY COMBINING MARK |POVYSHE S KHOKHLOM ON LEFT|VYSOKO S KHOKHLOM ON LEFT",
    "1cf0c ZNAMENNY COMBINING MARK |GORAZDO NIZKO S KRYZHEM ON RIGHT|NIZKO S KRYZHEM ON RIGHT",
    "1cf0e ZNAMENNY COMBINING MARK |TSATA ON RIGHT|GORAZDO NIZKO ON RIGHT|NIZKO ON RIGHT",
    "1cf11 ZNAMENNY COMBINING MARK |SREDNE ON RIGHT|MALO POVYSHE ON RIGHT|POVYSHE ON RIGHT",
    "1cf14 ZNAMENNY COMBINING MARK |VYSOKO ON RIGHT|MALO POVYSHE S KHOKHLOM ON RIGHT",
    "1cf16 ZNAMENNY COMBINING MARK |POVYSHE S KHOKHLOM ON RIGHT|VYSOKO S KHOKHLOM ON RIGHT",
    "1cf18 ZNAMENNY COMBINING MARK |TSATA S KRYZHEM|MALO POVYSHE S KRYZHEM|STRANNO MALO POVYSHE",
    "1cf1b ZNAMENNY COMBINING MARK POVYSHE |S KRYZHEM|STRANNO",
    "1cf1d ZNAMENNY COMBINING MARK |VYSOKO S KRYZHEM|MALO POVYSHE STRANNO",
    "1cf1f ZNAMENNY COMBINING MARK |GORAZDO VYSOKO|ZELO|ON|RAVNO|TIKHAYA|BORZAYA|UDARKA|PODVERTKA",
    "1cf27 ZNAMENNY COMBINING MARK |LOMKA|KUPNAYA|KACHKA|ZEVOK|SKOBA|RAZSEKA|KRYZH ON LEFT",
    "1cf30 ZNAMENNY COMBINING TONAL RANGE MARK |MRACHNO|SVETLO|TRESVETLO",
    "1cf33 ZNAMENNY COMBINING MARK |ZADERZHKA|DEMESTVENNY ZADERZHKA",
    "1cf35 ZNAMENNY COMBINING MARK |OTSECHKA|PODCHASHIE|PODCHASHIE WITH VERTICAL STROKE|CHASHKA",
    "1cf39 ZNAMENNY COMBINING MARK |CHASHKA POLNAYA|OBLACHKO|SOROCHYA NOZHKA|TOCHKA|DVOETOCHIE",
    "1cf3e |ZNAMENNY COMBINING ATTACHING VERTICAL OMET",
    "1cf3f ZNAMENNY COMBINING |MARK CURVED OMET|MARK KRYZH|LOWER TONAL RANGE INDICATOR",
    "1cf42 ZNAMENNY PRIZNAK MODIFIER |LEVEL-2|LEVEL-3|DIRECTION FLIP|KRYZH|ROG",
    "1cf50 ZNAMENNY NEUME |KRYUK|KRYUK TIKHY|PARAKLIT|DVA V CHELNU|KLYUCH",
    "1cf55 ZNAMENNY NEUME |ZANOZHEK|STOPITSA|STOPITSA S OCHKOM|PEREVODKA|PEREVODKA NEPOSTOYANNAYA",
    "1cf5a ZNAMENNY NEUME |STOPITSA WITH SOROCHYA NOZHKA|CHELYUSTKA|PALKA|ZAPYATAYA",
    "1cf5e ZNAMENNY NEUME GOLUBCHIK |BORZY|TIKHY|MRACHNY|SVETLY|TRESVETLY",
    "1cf63 ZNAMENNY NEUME VRAKHIYA |PROSTAYA|MRACHNAYA|SVETLAYA|TRESVETLAYA",
    "1cf67 ZNAMENNY NEUME VRAKHIYA KLYUCHEVAYA |PROSTAYA|MRACHNAYA|SVETLAYA|TRESVETLAYA",
    "1cf6b |ZNAMENNY NEUME DOUBLE ZAPYATAYA",
    "1cf6c ZNAMENNY NEUME |REVERSED CHELYUSTKA|DERBITSA|KHAMILO|CHASHKA|PODCHASHIE",
    "1cf71 ZNAMENNY NEUME SKAMEYTSA |MRACHNAYA|SVETLAYA|TRESVETLAYA|TIKHAYA",
    "1cf75 ZNAMENNY NEUME |DEMESTVENNY KLYUCH|SKAMEYTSA KLYUCHEVAYA SVETLAYA",
    "1cf77 ZNAMENNY NEUME SKAMEYTSA |KLYUCHENEPOSTOYANNAYA|KLYUCHEVAYA TIKHAYA",
    "1cf79 ZNAMENNY NEUME SKAMEYTSA DVOECHELNAYA |PROSTAYA|SVETLAYA|NEPOSTOYANNAYA|KLYUCHEVAYA",
    "1cf7d ZNAMENNY NEUME |SLOZHITIE|SLOZHITIE S ZAPYATOY|SLOZHITIE ZAKRYTOE",
    "1cf80 ZNAMENNY NEUME |SLOZHITIE S KRYZHEM|KRYZH|ROG|FITA|KOBYLA|ZMEYTSA|STATYA",
    "1cf87 ZNAMENNY NEUME STATYA S |ZAPYATOY|KRYZHEM|ZAPYATOY I KRYZHEM|KRYZHEM I ZAPYATOY",
    "1cf8b ZNAMENNY NEUME STATYA |ZAKRYTAYA|ZAKRYTAYA S ZAPYATOY|S ROGOM|S DVUMYA ZAPYATYMI",
    "1cf8f ZNAMENNY NEUME |STATYA S ZAPYATOY I PODCHASHIEM|POLKULIZMY|STATYA NEPOSTOYANNAYA",
    "1cf92 ZNAMENNY NEUME STRELA |PROSTAYA|MRACHNOTIKHAYA|KRYZHEVAYA|POLUPOVODNAYA",
    "1cf96 ZNAMENNY NEUME STRELA |POVODNAYA|NEPOSTOYANNAYA|KLYUCHEPOVODNAYA|KLYUCHENEPOSTOYANNAYA",
    "1cf9a ZNAMENNY NEUME STRELA |TIKHAYA PUTNAYA|DVOECHELNAYA|DVOECHELNOKRYZHEVAYA",
    "1cf9d ZNAMENNY NEUME STRELA |DVOECHELNOPOVODNAYA|DVOECHELNAYA KLYUCHEVAYA",
    "1cf9f ZNAMENNY NEUME STRELA |DVOECHELNOPOVODNAYA KLYUCHEVAYA|GROMNAYA WITH SINGLE ZAPYATAYA",
    "1cfa1 ZNAMENNY NEUME STRELA |GROMOPOVODNAYA WITH SINGLE ZAPYATAYA|GROMNAYA|GROMOPOVODNAYA",
    "1cfa4 ZNAMENNY NEUME STRELA |GROMOPOVODNAYA WITH DOUBLE ZAPYATAYA|GROMOKRYZHEVAYA",
    "1cfa6 ZNAMENNY NEUME |STRELA GROMOKRYZHEVAYA POVODNAYA|MECHIK",
    "1cfa8 ZNAMENNY NEUME MECHIK |POVODNY|KLYUCHEVOY|KLYUCHEPOVODNY|KLYUCHENEPOSTOYANNY",
    "1cfac ZNAMENNY NEUME STRELA |TRYASOGLASNAYA|TRYASOPOVODNAYA|TRYASOSTRELNAYA",
    "1cfaf |ZNAMENNY NEUME OSOKA",
    "1cfb0 ZNAMENNY NEUME OSOKA |SVETLAYA|TRESVETLAYA|KRYUKOVAYA SVETLAYA|KLYUCHEVAYA SVETLAYA",
    "1cfb4 ZNAMENNY NEUME |OSOKA KLYUCHEVAYA NEPOSTOYANNAYA|STRELA KRYUKOVAYA",
    "1cfb6 ZNAMENNY NEUME STRELA KRYUKOVAYA |POVODNAYA|GROMNAYA WITH SINGLE ZAPYATAYA",
    "1cfb8 ZNAMENNY NEUME STRELA KRYUKOVAYA |GROMOPOVODNAYA WITH SINGLE ZAPYATAYA|GROMNAYA",
    "1cfba ZNAMENNY NEUME STRELA KRYUKOVAYA |GROMOPOVODNAYA|GROMOPOVODNAYA WITH DOUBLE ZAPYATAYA",
    "1cfbc ZNAMENNY NEUME STRELA KRYUKOVAYA |GROMOKRYZHEVAYA|GROMOKRYZHEVAYA POVODNAYA|TRYASKA",
    "1cfbf ZNAMENNY NEUME |KUFISMA|OBLAKO|DUDA|NEMKA|PAUK",
    "1d000 BYZANTINE MUSICAL SYMBOL |PSILI|DASEIA|PERISPOMENI|OXEIA EKFONITIKON|OXEIA DIPLI",
    "1d005 BYZANTINE MUSICAL SYMBOL VAREIA |EKFONITIKON|DIPLI",
    "1d007 BYZANTINE MUSICAL SYMBOL |KATHISTI|SYRMATIKI|PARAKLITIKI",
    "1d00a BYZANTINE MUSICAL SYMBOL |YPOKRISIS|YPOKRISIS DIPLI|KREMASTI|APESO EKFONITIKON",
    "1d00e BYZANTINE MUSICAL SYMBOL |EXO EKFONITIKON|TELEIA|KENTIMATA|APOSTROFOS|APOSTROFOS DIPLI",
    "1d013 BYZANTINE MUSICAL SYMBOL |SYNEVMA|THITA|OLIGON ARCHAION|GORGON ARCHAION",
    "1d017 BYZANTINE MUSICAL SYMBOL |PSILON|CHAMILON|VATHY|ISON ARCHAION|KENTIMA ARCHAION",
    "1d01c BYZANTINE MUSICAL SYMBOL |KENTIMATA ARCHAION|SAXIMATA|PARICHON|STAVROS APODEXIA",
    "1d020 BYZANTINE MUSICAL SYMBOL |OXEIAI ARCHAION|VAREIAI ARCHAION|APODERMA ARCHAION|APOTHEMA",
    "1d024 BYZANTINE MUSICAL SYMBOL |KLASMA|REVMA|PIASMA ARCHAION|TINAGMA|ANATRICHISMA|SEISMA",
    "1d02a BYZANTINE MUSICAL SYMBOL |SYNAGMA ARCHAION|SYNAGMA META STAVROU|OYRANISMA ARCHAION",
    "1d02d BYZANTINE MUSICAL SYMBOL |THEMA|LEMOI|DYO|TRIA|TESSERA|KRATIMATA|APESO EXO NEO",
    "1d034 BYZANTINE MUSICAL SYMBOL |FTHORA ARCHAION|IMIFTHORA|TROMIKON ARCHAION|KATAVA TROMIKON",
    "1d038 BYZANTINE MUSICAL SYMBOL |PELASTON|PSIFISTON|KONTEVMA|CHOREVMA ARCHAION",
    "1d03c BYZANTINE MUSICAL SYMBOL |RAPISMA|PARAKALESMA ARCHAION|PARAKLITIKI ARCHAION|ICHADIN",
    "1d040 BYZANTINE MUSICAL SYMBOL |NANA|PETASMA|KONTEVMA ALLO|TROMIKON ALLO|STRAGGISMATA",
    "1d045 BYZANTINE MUSICAL SYMBOL |GRONTHISMATA|ISON NEO|OLIGON NEO|OXEIA NEO|PETASTI",
    "1d04a BYZANTINE MUSICAL SYMBOL |KOUFISMA|PETASTOKOUFISMA|KRATIMOKOUFISMA|PELASTON NEO",
    "1d04e BYZANTINE MUSICAL SYMBOL |KENTIMATA NEO ANO|KENTIMA NEO ANO|YPSILI|APOSTROFOS NEO",
    "1d052 BYZANTINE MUSICAL SYMBOL |APOSTROFOI SYNDESMOS NEO|YPORROI|KRATIMOYPORROON|ELAFRON",
    "1d056 BYZANTINE MUSICAL SYMBOL |CHAMILI|MIKRON ISON|VAREIA NEO|PIASMA NEO|PSIFISTON NEO",
    "1d05b BYZANTINE MUSICAL SYMBOL |OMALON|ANTIKENOMA|LYGISMA|PARAKLITIKI NEO|PARAKALESMA NEO",
    "1d060 BYZANTINE MUSICAL SYMBOL |ETERON PARAKALESMA|KYLISMA|ANTIKENOKYLISMA|TROMIKON NEO",
    "1d064 BYZANTINE MUSICAL SYMBOL |EKSTREPTON|SYNAGMA NEO|SYRMA|CHOREVMA NEO|EPEGERMA",
    "1d069 BYZANTINE MUSICAL SYMBOL |SEISMA NEO|XIRON KLASMA|TROMIKOPSIFISTON|PSIFISTOLYGISMA",
    "1d06d BYZANTINE MUSICAL SYMBOL |TROMIKOLYGISMA|TROMIKOPARAKALESMA|PSIFISTOPARAKALESMA",
    "1d070 BYZANTINE MUSICAL SYMBOL |TROMIKOSYNAGMA|PSIFISTOSYNAGMA|GORGOSYNTHETON",
    "1d073 BYZANTINE MUSICAL SYMBOL |ARGOSYNTHETON|ETERON ARGOSYNTHETON|OYRANISMA NEO",
    "1d076 BYZANTINE MUSICAL SYMBOL THEMATISMOS |ESO|EXO",
    "1d078 BYZANTINE MUSICAL SYMBOL |THEMA APLOUN|THES KAI APOTHES|KATAVASMA|ENDOFONON|YFEN KATO",
    "1d07d BYZANTINE MUSICAL SYMBOL |YFEN ANO|STAVROS|KLASMA ANO|DIPLI ARCHAION|KRATIMA ARCHAION",
    "1d082 BYZANTINE MUSICAL SYMBOL |KRATIMA ALLO|KRATIMA NEO|APODERMA NEO|APLI|DIPLI|TRIPLI",
    "1d088 BYZANTINE MUSICAL SYMBOL |TETRAPLI|KORONIS|LEIMMA ENOS CHRONOU|LEIMMA DYO CHRONON",
    "1d08c BYZANTINE MUSICAL SYMBOL LEIMMA |TRION CHRONON|TESSARON CHRONON|IMISEOS CHRONOU",
    "1d08f BYZANTINE MUSICAL SYMBOL GORGON |NEO ANO|PARESTIGMENON ARISTERA|PARESTIGMENON DEXIA",
    "1d092 |BYZANTINE MUSICAL SYMBOL DIGORGON",
    "1d093 BYZANTINE MUSICAL SYMBOL DIGORGON PARESTIGMENON |ARISTERA KATO|ARISTERA ANO|DEXIA",
    "1d096 BYZANTINE MUSICAL SYMBOL |TRIGORGON|ARGON|IMIDIARGON|DIARGON|AGOGI POLI ARGI",
    "1d09b BYZANTINE MUSICAL SYMBOL AGOGI |ARGOTERI|ARGI|METRIA|MESI|GORGI|GORGOTERI|POLI GORGI",
    "1d0a2 BYZANTINE MUSICAL SYMBOL MARTYRIA |PROTOS ICHOS|ALLI PROTOS ICHOS|DEYTEROS ICHOS",
    "1d0a5 BYZANTINE MUSICAL SYMBOL MARTYRIA |ALLI DEYTEROS ICHOS|TRITOS ICHOS|TRIFONIAS",
    "1d0a8 BYZANTINE MUSICAL SYMBOL MARTYRIA TETARTOS |ICHOS|LEGETOS ICHOS",
    "1d0aa BYZANTINE MUSICAL SYMBOL MARTYRIA |LEGETOS ICHOS|PLAGIOS ICHOS",
    "1d0ac BYZANTINE MUSICAL SYMBOL |ISAKIA TELOUS ICHIMATOS|APOSTROFOI TELOUS ICHIMATOS",
    "1d0ae BYZANTINE MUSICAL SYMBOL FANEROSIS |TETRAFONIAS|MONOFONIAS|DIFONIAS",
    "1d0b1 BYZANTINE MUSICAL SYMBOL MARTYRIA |VARYS ICHOS|PROTOVARYS ICHOS|PLAGIOS TETARTOS ICHOS",
    "1d0b4 BYZANTINE MUSICAL SYMBOL GORTHMIKON N |APLOUN|DIPLOUN",
    "1d0b6 BYZANTINE MUSICAL SYMBOL |ENARXIS KAI FTHORA VOU|IMIFONON|IMIFTHORON",
    "1d0b9 BYZANTINE MUSICAL SYMBOL FTHORA |ARCHAION DEYTEROU ICHOU|DIATONIKI PA|DIATONIKI NANA",
    "1d0bc BYZANTINE MUSICAL SYMBOL FTHORA |NAOS ICHOS|DIATONIKI DI|SKLIRON DIATONON DI",
    "1d0bf BYZANTINE MUSICAL SYMBOL FTHORA DIATONIKI |KE|ZO|NI KATO|NI ANO",
    "1d0c3 BYZANTINE MUSICAL SYMBOL FTHORA MALAKON CHROMA |DIFONIAS|MONOFONIAS",
    "1d0c5 BYZANTINE MUSICAL SYMBOL |FHTORA SKLIRON CHROMA VASIS|FTHORA SKLIRON CHROMA SYNAFI",
    "1d0c7 BYZANTINE MUSICAL SYMBOL |FTHORA NENANO|CHROA ZYGOS|CHROA KLITON|CHROA SPATHI",
    "1d0cb BYZANTINE MUSICAL SYMBOL FTHORA |I YFESIS TETARTIMORION|ENARMONIOS ANTIFONIA",
    "1d0cd BYZANTINE MUSICAL SYMBOL |YFESIS TRITIMORION|DIESIS TRITIMORION|DIESIS TETARTIMORION",
    "1d0d0 BYZANTINE MUSICAL SYMBOL DIESIS |APLI DYO DODEKATA|MONOGRAMMOS TESSERA DODEKATA",
    "1d0d2 BYZANTINE MUSICAL SYMBOL DIESIS |DIGRAMMOS EX DODEKATA|TRIGRAMMOS OKTO DODEKATA",
    "1d0d4 BYZANTINE MUSICAL SYMBOL YFESIS |APLI DYO DODEKATA|MONOGRAMMOS TESSERA DODEKATA",
    "1d0d6 BYZANTINE MUSICAL SYMBOL YFESIS |DIGRAMMOS EX DODEKATA|TRIGRAMMOS OKTO DODEKATA",
    "1d0d8 BYZANTINE MUSICAL SYMBOL GENIKI |DIESIS|YFESIS",
    "1d0da BYZANTINE MUSICAL SYMBOL DIASTOLI |APLI MIKRI|APLI MEGALI|DIPLI|THESEOS",
    "1d0de BYZANTINE MUSICAL SYMBOL SIMANSIS |THESEOS|THESEOS DISIMOU",
    "1d0e0 BYZANTINE MUSICAL SYMBOL SIMANSIS |THESEOS TRISIMOU|THESEOS TETRASIMOU|ARSEOS",
    "1d0e3 BYZANTINE MUSICAL SYMBOL SIMANSIS ARSEOS |DISIMOU|TRISIMOU|TETRASIMOU",
    "1d0e6 BYZANTINE MUSICAL SYMBOL |DIGRAMMA GG|DIFTOGGOS OU|STIGMA",
    "1d0e9 BYZANTINE MUSICAL SYMBOL ARKTIKO |PA|VOU|GA|DI|KE|ZO|NI",
    "1d0f0 BYZANTINE MUSICAL SYMBOL |KENTIMATA NEO MESO|KENTIMA NEO MESO|KENTIMATA NEO KATO",
    "1d0f3 BYZANTINE MUSICAL SYMBOL |KENTIMA NEO KATO|KLASMA KATO|GORGON NEO KATO",
    "1d100 MUSICAL SYMBOL |SINGLE BARLINE|DOUBLE BARLINE|FINAL BARLINE",
    "1d103 MUSICAL SYMBOL |REVERSE FINAL BARLINE|DASHED BARLINE|SHORT BARLINE|LEFT REPEAT SIGN",
    "1d107 MUSICAL SYMBOL |RIGHT REPEAT SIGN|REPEAT DOTS|DAL SEGNO|DA CAPO|SEGNO|CODA",
    "1d10d MUSICAL SYMBOL REPEATED |FIGURE-1|FIGURE-2|FIGURE-3",
    "1d110 MUSICAL SYMBOL |FERMATA|FERMATA BELOW|BREATH MARK|CAESURA|BRACE|BRACKET|ONE-LINE STAFF",
    "1d117 MUSICAL SYMBOL |TWO-LINE STAFF|THREE-LINE STAFF|FOUR-LINE STAFF|FIVE-LINE STAFF",
    "1d11b MUSICAL SYMBOL |SIX-LINE STAFF|SIX-STRING FRETBOARD|FOUR-STRING FRETBOARD",
    "1d11e MUSICAL SYMBOL |G CLEF|G CLEF OTTAVA ALTA|G CLEF OTTAVA BASSA|C CLEF",
    "1d122 MUSICAL SYMBOL |F CLEF|F CLEF OTTAVA ALTA|F CLEF OTTAVA BASSA|DRUM CLEF-1|DRUM CLEF-2",
    "1d129 MUSICAL SYMBOL |MULTIPLE MEASURE REST|DOUBLE SHARP|DOUBLE FLAT",
    "1d12c MUSICAL SYMBOL |FLAT UP|FLAT DOWN|NATURAL UP|NATURAL DOWN|SHARP UP|SHARP DOWN",
    "1d132 MUSICAL SYMBOL |QUARTER TONE SHARP|QUARTER TONE FLAT|COMMON TIME|CUT TIME|OTTAVA ALTA",
    "1d137 MUSICAL SYMBOL |OTTAVA BASSA|QUINDICESIMA ALTA|QUINDICESIMA BASSA|MULTI REST",
    "1d13b MUSICAL SYMBOL |WHOLE REST|HALF REST|QUARTER REST|EIGHTH REST|SIXTEENTH REST",
    "1d140 MUSICAL SYMBOL |THIRTY-SECOND REST|SIXTY-FOURTH REST|ONE HUNDRED TWENTY-EIGHTH REST",
    "1d143 MUSICAL SYMBOL |X NOTEHEAD|PLUS NOTEHEAD|CIRCLE X NOTEHEAD",
    "1d146 MUSICAL SYMBOL SQUARE NOTEHEAD |WHITE|BLACK",
    "1d148 MUSICAL SYMBOL TRIANGLE NOTEHEAD |UP WHITE|UP BLACK|LEFT WHITE|LEFT BLACK",
    "1d14c MUSICAL SYMBOL TRIANGLE NOTEHEAD |RIGHT WHITE|RIGHT BLACK|DOWN WHITE|DOWN BLACK",
    "1d150 MUSICAL SYMBOL TRIANGLE NOTEHEAD UP RIGHT |WHITE|BLACK",
    "1d152 MUSICAL SYMBOL MOON NOTEHEAD |WHITE|BLACK",
    "1d154 MUSICAL SYMBOL TRIANGLE-ROUND NOTEHEAD DOWN |WHITE|BLACK",
    "1d156 MUSICAL SYMBOL |PARENTHESIS NOTEHEAD|VOID NOTEHEAD|NOTEHEAD BLACK|NULL NOTEHEAD",
    "1d15a MUSICAL SYMBOL CLUSTER NOTEHEAD |WHITE|BLACK",
    "1d15c MUSICAL SYMBOL |BREVE|WHOLE NOTE|HALF NOTE|QUARTER NOTE|EIGHTH NOTE|SIXTEENTH NOTE",
    "1d162 MUSICAL SYMBOL |THIRTY-SECOND NOTE|SIXTY-FOURTH NOTE|ONE HUNDRED TWENTY-EIGHTH NOTE",
    "1d165 MUSICAL SYMBOL COMBINING |STEM|SPRECHGESANG STEM|TREMOLO-1|TREMOLO-2|TREMOLO-3",
    "1d16a MUSICAL SYMBOL FINGERED |TREMOLO-1|TREMOLO-2|TREMOLO-3",
    "1d16d MUSICAL SYMBOL COMBINING |AUGMENTATION DOT|FLAG-1|FLAG-2|FLAG-3|FLAG-4|FLAG-5",
    "1d173 MUSICAL SYMBOL |BEGIN BEAM|END BEAM|BEGIN TIE|END TIE|BEGIN SLUR|END SLUR|BEGIN PHRASE",
    "1d17a MUSICAL SYMBOL |END PHRASE|COMBINING ACCENT|COMBINING STACCATO|COMBINING TENUTO",
    "1d17e MUSICAL SYMBOL COMBINING |STACCATISSIMO|MARCATO|MARCATO-STACCATO|ACCENT-STACCATO|LOURE",
    "1d183 MUSICAL SYMBOL ARPEGGIATO |UP|DOWN",
    "1d185 MUSICAL SYMBOL COMBINING |DOIT|RIP|FLIP|SMEAR|BEND|DOUBLE TONGUE|TRIPLE TONGUE",
    "1d18c MUSICAL SYMBOL |RINFORZANDO|SUBITO|Z|PIANO|MEZZO|FORTE|CRESCENDO|DECRESCENDO",
    "1d194 MUSICAL SYMBOL GRACE NOTE |SLASH|NO SLASH",
    "1d196 MUSICAL SYMBOL |TR|TURN|INVERTED TURN|TURN SLASH|TURN UP",
    "1d19b MUSICAL SYMBOL ORNAMENT |STROKE-1|STROKE-2|STROKE-3|STROKE-4|STROKE-5",
    "1d1a0 MUSICAL SYMBOL ORNAMENT |STROKE-6|STROKE-7|STROKE-8|STROKE-9|STROKE-10|STROKE-11",
    "1d1a6 MUSICAL SYMBOL |HAUPTSTIMME|NEBENSTIMME|END OF STIMME|DEGREE SLASH",
    "1d1aa MUSICAL SYMBOL COMBINING |DOWN BOW|UP BOW|HARMONIC|SNAP PIZZICATO",
    "1d1ae MUSICAL SYMBOL PEDAL |MARK|UP MARK",
    "1d1b0 MUSICAL SYMBOL |HALF PEDAL MARK|GLISSANDO UP|GLISSANDO DOWN|WITH FINGERNAILS|DAMP",
    "1d1b5 MUSICAL SYMBOL |DAMP ALL|MAXIMA|LONGA|BREVIS|SEMIBREVIS WHITE|SEMIBREVIS BLACK|MINIMA",
    "1d1bc MUSICAL SYMBOL |MINIMA BLACK|SEMIMINIMA WHITE|SEMIMINIMA BLACK|FUSA WHITE|FUSA BLACK",
    "1d1c1 MUSICAL SYMBOL |LONGA PERFECTA REST|LONGA IMPERFECTA REST|BREVIS REST|SEMIBREVIS REST",
    "1d1c5 MUSICAL SYMBOL |MINIMA REST|SEMIMINIMA REST|TEMPUS PERFECTUM CUM PROLATIONE PERFECTA",
    "1d1c8 MUSICAL SYMBOL TEMPUS PERFECTUM CUM PROLATIONE |IMPERFECTA|PERFECTA DIMINUTION-1",
    "1d1ca |MUSICAL SYMBOL TEMPUS IMPERFECTUM CUM PROLATIONE PERFECTA",
    "1d1cb MUSICAL SYMBOL TEMPUS IMPERFECTUM CUM PROLATIONE |IMPERFECTA|IMPERFECTA DIMINUTION-1",
    "1d1cd MUSICAL SYMBOL TEMPUS IMPERFECTUM CUM PROLATIONE IMPERFECTA |DIMINUTION-2|DIMINUTION-3",
    "1d1cf MUSICAL SYMBOL |CROIX|GREGORIAN C CLEF|GREGORIAN F CLEF|SQUARE B|VIRGA",
    "1d1d4 MUSICAL SYMBOL |PODATUS|CLIVIS|SCANDICUS|CLIMACUS|TORCULUS|PORRECTUS|PORRECTUS FLEXUS",
    "1d1db MUSICAL SYMBOL |SCANDICUS FLEXUS|TORCULUS RESUPINUS|PES SUBPUNCTIS|KIEVAN C CLEF",
    "1d1df MUSICAL SYMBOL KIEVAN |END OF PIECE|FINAL NOTE|RECITATIVE MARK|WHOLE NOTE|HALF NOTE",
    "1d1e4 MUSICAL SYMBOL KIEVAN QUARTER NOTE STEM |DOWN|UP",
    "1d1e6 MUSICAL SYMBOL KIEVAN EIGHTH NOTE STEM |DOWN|UP",
    "1d1e8 MUSICAL SYMBOL |KIEVAN FLAT SIGN|SORI|KORON",
    "1d200 GREEK VOCAL NOTATION |SYMBOL-1|SYMBOL-2|SYMBOL-3|SYMBOL-4",
    "1d204 GREEK VOCAL NOTATION |SYMBOL-5|SYMBOL-6|SYMBOL-7|SYMBOL-8|SYMBOL-9|SYMBOL-10|SYMBOL-11",
    "1d20b GREEK VOCAL NOTATION |SYMBOL-12|SYMBOL-13|SYMBOL-14|SYMBOL-15|SYMBOL-16|SYMBOL-17",
    "1d211 GREEK VOCAL NOTATION |SYMBOL-18|SYMBOL-19|SYMBOL-20|SYMBOL-21|SYMBOL-22|SYMBOL-23",
    "1d217 GREEK VOCAL NOTATION |SYMBOL-24|SYMBOL-50|SYMBOL-51|SYMBOL-52|SYMBOL-53|SYMBOL-54",
    "1d21d |GREEK INSTRUMENTAL NOTATION SYMBOL-1",
    "1d21e GREEK INSTRUMENTAL NOTATION |SYMBOL-2|SYMBOL-4|SYMBOL-5|SYMBOL-7|SYMBOL-8|SYMBOL-11",
    "1d224 GREEK INSTRUMENTAL NOTATION |SYMBOL-12|SYMBOL-13|SYMBOL-14|SYMBOL-17|SYMBOL-18",
    "1d229 GREEK INSTRUMENTAL NOTATION |SYMBOL-19|SYMBOL-23|SYMBOL-24|SYMBOL-25|SYMBOL-26",
    "1d22e GREEK INSTRUMENTAL NOTATION |SYMBOL-27|SYMBOL-29|SYMBOL-30|SYMBOL-32|SYMBOL-36",
    "1d233 GREEK INSTRUMENTAL NOTATION |SYMBOL-37|SYMBOL-38|SYMBOL-39|SYMBOL-40|SYMBOL-42",
    "1d238 GREEK INSTRUMENTAL NOTATION |SYMBOL-43|SYMBOL-45|SYMBOL-47|SYMBOL-48|SYMBOL-49",
    "1d23d GREEK INSTRUMENTAL NOTATION |SYMBOL-50|SYMBOL-51|SYMBOL-52|SYMBOL-53|SYMBOL-54",
    "1d242 COMBINING GREEK MUSICAL |TRISEME|TETRASEME|PENTASEME",
    "1d245 |GREEK MUSICAL LEIMMA",
    "1d2e0 MAYAN NUMERAL |ZERO|ONE|TWO|THREE|FOUR|FIVE|SIX|SEVEN|EIGHT|NINE|TEN|ELEVEN",
    "1d2ec MAYAN NUMERAL |TWELVE|THIRTEEN|FOURTEEN|FIFTEEN|SIXTEEN|SEVENTEEN|EIGHTEEN|NINETEEN",
    "1d300 |MONOGRAM FOR EARTH",
    "1d301 DIGRAM FOR |HEAVENLY EARTH|HUMAN EARTH|EARTHLY HEAVEN|EARTHLY HUMAN|EARTH",
    "1d306 TETRAGRAM FOR |CENTRE|FULL CIRCLE|MIRED|BARRIER|KEEPING SMALL|CONTRARIETY",
    "1d30c TETRAGRAM FOR |ASCENT|OPPOSITION|BRANCHING OUT|DEFECTIVENESS OR DISTORTION|DIVERGENCE",
    "1d311 TETRAGRAM FOR |YOUTHFULNESS|INCREASE|PENETRATION|REACH|CONTACT|HOLDING BACK|WAITING",
    "1d318 TETRAGRAM FOR |FOLLOWING|ADVANCE|RELEASE|RESISTANCE|EASE|JOY|CONTENTION|ENDEAVOUR",
    "1d320 TETRAGRAM FOR |DUTIES|CHANGE|DECISIVENESS|BOLD RESOLUTION|PACKING|LEGION|CLOSENESS",
    "1d327 TETRAGRAM FOR |KINSHIP|GATHERING|STRENGTH|PURITY|FULLNESS|RESIDENCE|LAW OR MODEL",
    "1d32e TETRAGRAM FOR |RESPONSE|GOING TO MEET|ENCOUNTERS|STOVE|GREATNESS|ENLARGEMENT|PATTERN",
    "1d335 TETRAGRAM FOR |RITUAL|FLIGHT|VASTNESS OR WASTING|CONSTANCY|MEASURE|ETERNITY|UNITY",
    "1d33c TETRAGRAM FOR |DIMINISHMENT|CLOSED MOUTH|GUARDEDNESS|GATHERING IN|MASSING|ACCUMULATION",
    "1d342 TETRAGRAM FOR |EMBELLISHMENT|DOUBT|WATCH|SINKING|INNER|DEPARTURE|DARKENING|DIMMING",
    "1d34a TETRAGRAM FOR |EXHAUSTION|SEVERANCE|STOPPAGE|HARDNESS|COMPLETION|CLOSURE|FAILURE",
    "1d351 TETRAGRAM FOR |AGGRAVATION|COMPLIANCE|ON THE VERGE|DIFFICULTIES|LABOURING|FOSTERING",
    "1d360 COUNTING ROD UNIT DIGIT |ONE|TWO|THREE|FOUR|FIVE|SIX|SEVEN|EIGHT|NINE",
    "1d369 COUNTING ROD TENS DIGIT |ONE|TWO|THREE|FOUR|FIVE|SIX|SEVEN|EIGHT|NINE",
    "1d372 IDEOGRAPHIC TALLY MARK |ONE|TWO|THREE|FOUR|FIVE",
    "1d377 TALLY MARK |ONE|FIVE",
    "1d400 MATHEMATICAL BOLD CAPITAL |A|B|C|D|E|F|G|H|I|J|K|L|M|N|O|P|Q|R|S|T|U|V|W|X|Y|Z",
    "1d41a MATHEMATICAL BOLD SMALL |A|B|C|D|E|F|G|H|I|J|K|L|M|N|O|P|Q|R|S|T|U|V|W|X|Y|Z",
    "1d434 MATHEMATICAL ITALIC CAPITAL |A|B|C|D|E|F|G|H|I|J|K|L|M|N|O|P|Q|R|S|T|U|V|W|X|Y|Z",
    "1d44e MATHEMATICAL ITALIC SMALL |A|B|C|D|E|F|G",
    "1d456 MATHEMATICAL ITALIC SMALL |I|J|K|L|M|N|O|P|Q|R|S|T|U|V|W|X|Y|Z",
    "1d468 MATHEMATICAL BOLD ITALIC CAPITAL |A|B|C|D|E|F|G|H|I|J|K|L|M|N|O|P|Q|R|S|T|U|V|W|X|Y|Z",
    "1d482 MATHEMATICAL BOLD ITALIC SMALL |A|B|C|D|E|F|G|H|I|J|K|L|M|N|O|P|Q|R|S|T|U|V|W|X|Y|Z",
    "1d49c |MATHEMATICAL SCRIPT CAPITAL A",
    "1d49e MATHEMATICAL SCRIPT CAPITAL |C|D",
    "1d4a2 |MATHEMATICAL SCRIPT CAPITAL G",
    "1d4a5 MATHEMATICAL SCRIPT CAPITAL |J|K",
    "1d4a9 MATHEMATICAL SCRIPT CAPITAL |N|O|P|Q",
    "1d4ae MATHEMATICAL SCRIPT CAPITAL |S|T|U|V|W|X|Y|Z",
    "1d4b6 MATHEMATICAL SCRIPT SMALL |A|B|C|D",
    "1d4bb |MATHEMATICAL SCRIPT SMALL F",
    "1d4bd MATHEMATICAL SCRIPT SMALL |H|I|J|K|L|M|N",
    "1d4c5 MATHEMATICAL SCRIPT SMALL |P|Q|R|S|T|U|V|W|X|Y|Z",
    "1d4d0 MATHEMATICAL BOLD SCRIPT CAPITAL |A|B|C|D|E|F|G|H|I|J|K|L|M|N|O|P|Q|R|S|T|U|V|W|X|Y|Z",
    "1d4ea MATHEMATICAL BOLD SCRIPT SMALL |A|B|C|D|E|F|G|H|I|J|K|L|M|N|O|P|Q|R|S|T|U|V|W|X|Y|Z",
    "1d504 MATHEMATICAL FRAKTUR CAPITAL |A|B",
    "1d507 MATHEMATICAL FRAKTUR CAPITAL |D|E|F|G",
    "1d50d MATHEMATICAL FRAKTUR CAPITAL |J|K|L|M|N|O|P|Q",
    "1d516 MATHEMATICAL FRAKTUR CAPITAL |S|T|U|V|W|X|Y",
    "1d51e MATHEMATICAL FRAKTUR SMALL |A|B|C|D|E|F|G|H|I|J|K|L|M|N|O|P|Q|R|S|T|U|V|W|X|Y|Z",
    "1d538 MATHEMATICAL DOUBLE-STRUCK CAPITAL |A|B",
    "1d53b MATHEMATICAL DOUBLE-STRUCK CAPITAL |D|E|F|G",
    "1d540 MATHEMATICAL DOUBLE-STRUCK CAPITAL |I|J|K|L|M",
    "1d546 |MATHEMATICAL DOUBLE-STRUCK CAPITAL O",
    "1d54a MATHEMATICAL DOUBLE-STRUCK CAPITAL |S|T|U|V|W|X|Y",
    "1d552 MATHEMATICAL DOUBLE-STRUCK SMALL |A|B|C|D|E|F|G|H|I|J|K|L|M|N|O|P|Q|R|S|T|U|V|W|X|Y|Z",
    "1d56c MATHEMATICAL BOLD FRAKTUR CAPITAL |A|B|C|D|E|F|G|H|I|J|K|L|M|N|O|P|Q|R|S|T|U|V|W|X|Y|Z",
    "1d586 MATHEMATICAL BOLD FRAKTUR SMALL |A|B|C|D|E|F|G|H|I|J|K|L|M|N|O|P|Q|R|S|T|U|V|W|X|Y|Z",
    "1d5a0 MATHEMATICAL SANS-SERIF CAPITAL |A|B|C|D|E|F|G|H|I|J|K|L|M|N|O|P|Q|R|S|T|U|V|W|X|Y|Z",
    "1d5ba MATHEMATICAL SANS-SERIF SMALL |A|B|C|D|E|F|G|H|I|J|K|L|M|N|O|P|Q|R|S|T|U|V|W|X|Y|Z",
    "1d5d4 MATHEMATICAL SANS-SERIF BOLD CAPITAL |A|B|C|D|E|F|G|H|I|J|K|L|M|N|O|P|Q|R|S|T|U|V|W|X",
    "1d5ec MATHEMATICAL SANS-SERIF BOLD |CAPITAL Y|CAPITAL Z|SMALL A",
    "1d5ef MATHEMATICAL SANS-SERIF BOLD SMALL |B|C|D|E|F|G|H|I|J|K|L|M|N|O|P|Q|R|S|T|U|V|W|X|Y|Z",
    "1d608 MATHEMATICAL SANS-SERIF ITALIC CAPITAL |A|B|C|D|E|F|G|H|I|J|K|L|M|N|O|P|Q|R|S|T|U|V|W",
    "1d61f MATHEMATICAL SANS-SERIF ITALIC |CAPITAL X|CAPITAL Y|CAPITAL Z|SMALL A|SMALL B",
    "1d624 MATHEMATICAL SANS-SERIF ITALIC SMALL |C|D|E|F|G|H|I|J|K|L|M|N|O|P|Q|R|S|T|U|V|W|X|Y|Z",
    "1d63c MATHEMATICAL SANS-SERIF BOLD ITALIC CAPITAL |A|B|C|D|E",
    "1d641 MATHEMATICAL SANS-SERIF BOLD ITALIC CAPITAL |F|G|H|I|J|K|L|M|N|O|P|Q|R|S|T|U|V|W|X|Y|Z",
    "1d656 MATHEMATICAL SANS-SERIF BOLD ITALIC SMALL |A|B|C|D",
    "1d65a MATHEMATICAL SANS-SERIF BOLD ITALIC SMALL |E|F|G|H|I|J|K|L|M|N|O|P|Q|R|S|T|U|V|W|X|Y|Z",
    "1d670 MATHEMATICAL MONOSPACE CAPITAL |A|B|C|D|E|F|G|H|I|J|K|L|M|N|O|P|Q|R|S|T|U|V|W|X|Y|Z",
    "1d68a MATHEMATICAL MONOSPACE SMALL |A|B|C|D|E|F|G|H|I|J|K|L|M|N|O|P|Q|R|S|T|U|V|W|X|Y|Z",
    "1d6a4 MATHEMATICAL ITALIC SMALL DOTLESS |I|J",
    "1d6a8 MATHEMATICAL BOLD CAPITAL |ALPHA|BETA|GAMMA|DELTA",
    "1d6ac MATHEMATICAL BOLD CAPITAL |EPSILON|ZETA|ETA|THETA|IOTA|KAPPA|LAMDA|MU|NU|XI|OMICRON",
    "1d6b7 MATHEMATICAL BOLD CAPITAL |PI|RHO|THETA SYMBOL|SIGMA|TAU|UPSILON|PHI|CHI|PSI|OMEGA",
    "1d6c1 MATHEMATICAL BOLD |NABLA|SMALL ALPHA",
    "1d6c3 MATHEMATICAL BOLD SMALL |BETA|GAMMA|DELTA|EPSILON|ZETA|ETA|THETA|IOTA|KAPPA|LAMDA",
    "1d6cd MATHEMATICAL BOLD SMALL |MU|NU|XI|OMICRON|PI|RHO|FINAL SIGMA|SIGMA|TAU|UPSILON|PHI|CHI",
    "1d6d9 MATHEMATICAL BOLD |SMALL PSI|SMALL OMEGA|PARTIAL DIFFERENTIAL|EPSILON SYMBOL",
    "1d6dd MATHEMATICAL BOLD |THETA SYMBOL|KAPPA SYMBOL|PHI SYMBOL|RHO SYMBOL|PI SYMBOL",
    "1d6e2 MATHEMATICAL ITALIC CAPITAL |ALPHA|BETA|GAMMA|DELTA",
    "1d6e6 MATHEMATICAL ITALIC CAPITAL |EPSILON|ZETA|ETA|THETA|IOTA|KAPPA|LAMDA|MU|NU|XI|OMICRON",
    "1d6f1 MATHEMATICAL ITALIC CAPITAL |PI|RHO|THETA SYMBOL|SIGMA|TAU|UPSILON|PHI|CHI|PSI|OMEGA",
    "1d6fb MATHEMATICAL ITALIC |NABLA|SMALL ALPHA",
    "1d6fd MATHEMATICAL ITALIC SMALL |BETA|GAMMA|DELTA|EPSILON|ZETA|ETA|THETA|IOTA|KAPPA|LAMDA|MU",
    "1d708 MATHEMATICAL ITALIC SMALL |NU|XI|OMICRON|PI|RHO|FINAL SIGMA|SIGMA|TAU|UPSILON|PHI|CHI",
    "1d713 MATHEMATICAL ITALIC |SMALL PSI|SMALL OMEGA|PARTIAL DIFFERENTIAL|EPSILON SYMBOL",
    "1d717 MATHEMATICAL ITALIC |THETA SYMBOL|KAPPA SYMBOL|PHI SYMBOL|RHO SYMBOL|PI SYMBOL",
    "1d71c MATHEMATICAL BOLD ITALIC CAPITAL |ALPHA|BETA|GAMMA|DELTA|EPSILON",
    "1d721 MATHEMATICAL BOLD ITALIC CAPITAL |ZETA|ETA|THETA|IOTA|KAPPA|LAMDA|MU|NU|XI|OMICRON|PI",
    "1d72c MATHEMATICAL BOLD ITALIC CAPITAL |RHO|THETA SYMBOL|SIGMA|TAU|UPSILON|PHI|CHI|PSI|OMEGA",
    "1d735 MATHEMATICAL BOLD ITALIC |NABLA|SMALL ALPHA|SMALL BETA|SMALL GAMMA",
    "1d739 MATHEMATICAL BOLD ITALIC SMALL |DELTA|EPSILON|ZETA|ETA|THETA|IOTA|KAPPA|LAMDA|MU|NU|XI",
    "1d744 MATHEMATICAL BOLD ITALIC SMALL |OMICRON|PI|RHO|FINAL SIGMA|SIGMA|TAU|UPSILON|PHI|CHI",
    "1d74d MATHEMATICAL BOLD ITALIC |SMALL PSI|SMALL OMEGA|PARTIAL DIFFERENTIAL|EPSILON SYMBOL",
    "1d751 MATHEMATICAL BOLD ITALIC |THETA SYMBOL|KAPPA SYMBOL|PHI SYMBOL|RHO SYMBOL|PI SYMBOL",
    "1d756 MATHEMATICAL SANS-SERIF BOLD CAPITAL |ALPHA|BETA|GAMMA|DELTA|EPSILON|ZETA|ETA",
    "1d75d MATHEMATICAL SANS-SERIF BOLD CAPITAL |THETA|IOTA|KAPPA|LAMDA|MU|NU|XI|OMICRON|PI|RHO",
    "1d767 MATHEMATICAL SANS-SERIF BOLD CAPITAL |THETA SYMBOL|SIGMA|TAU|UPSILON|PHI|CHI|PSI|OMEGA",
    "1d76f |MATHEMATICAL SANS-SERIF BOLD NABLA",
    "1d770 MATHEMATICAL SANS-SERIF BOLD SMALL |ALPHA|BETA|GAMMA|DELTA|EPSILON|ZETA",
    "1d776 MATHEMATICAL SANS-SERIF BOLD SMALL |ETA|THETA|IOTA|KAPPA|LAMDA|MU|NU|XI|OMICRON|PI|RHO",
    "1d781 MATHEMATICAL SANS-SERIF BOLD SMALL |FINAL SIGMA|SIGMA|TAU|UPSILON|PHI|CHI|PSI|OMEGA",
    "1d789 MATHEMATICAL SANS-SERIF BOLD |PARTIAL DIFFERENTIAL|EPSILON SYMBOL|THETA SYMBOL",
    "1d78c MATHEMATICAL SANS-SERIF BOLD |KAPPA SYMBOL|PHI SYMBOL|RHO SYMBOL|PI SYMBOL",
    "1d790 MATHEMATICAL SANS-SERIF BOLD ITALIC CAPITAL |ALPHA|BETA|GAMMA|DELTA",
    "1d794 MATHEMATICAL SANS-SERIF BOLD ITALIC CAPITAL |EPSILON|ZETA|ETA|THETA|IOTA|KAPPA|LAMDA",
    "1d79b MATHEMATICAL SANS-SERIF BOLD ITALIC CAPITAL |MU|NU|XI|OMICRON|PI|RHO|THETA SYMBOL",
    "1d7a2 MATHEMATICAL SANS-SERIF BOLD ITALIC CAPITAL |SIGMA|TAU|UPSILON|PHI|CHI|PSI|OMEGA",
    "1d7a9 MATHEMATICAL SANS-SERIF BOLD ITALIC |NABLA|SMALL ALPHA|SMALL BETA|SMALL GAMMA",
    "1d7ad MATHEMATICAL SANS-SERIF BOLD ITALIC SMALL |DELTA|EPSILON|ZETA|ETA|THETA|IOTA|KAPPA",
    "1d7b4 MATHEMATICAL SANS-SERIF BOLD ITALIC SMALL |LAMDA|MU|NU|XI|OMICRON|PI|RHO|FINAL SIGMA",
    "1d7bc MATHEMATICAL SANS-SERIF BOLD ITALIC SMALL |SIGMA|TAU|UPSILON|PHI|CHI|PSI|OMEGA",
    "1d7c3 MATHEMATICAL SANS-SERIF BOLD ITALIC |PARTIAL DIFFERENTIAL|EPSILON SYMBOL|THETA SYMBOL",
    "1d7c6 MATHEMATICAL SANS-SERIF BOLD ITALIC |KAPPA SYMBOL|PHI SYMBOL|RHO SYMBOL|PI SYMBOL",
    "1d7ca MATHEMATICAL BOLD |CAPITAL DIGAMMA|SMALL DIGAMMA",
    "1d7ce MATHEMATICAL BOLD DIGIT |ZERO|ONE|TWO|THREE|FOUR|FIVE|SIX|SEVEN|EIGHT|NINE",
    "1d7d8 MATHEMATICAL DOUBLE-STRUCK DIGIT |ZERO|ONE|TWO|THREE|FOUR|FIVE|SIX|SEVEN|EIGHT|NINE",
    "1d7e2 MATHEMATICAL SANS-SERIF DIGIT |ZERO|ONE|TWO|THREE|FOUR|FIVE|SIX|SEVEN|EIGHT|NINE",
    "1d7ec MATHEMATICAL SANS-SERIF BOLD DIGIT |ZERO|ONE|TWO|THREE|FOUR|FIVE|SIX|SEVEN|EIGHT|NINE",
    "1d7f6 MATHEMATICAL MONOSPACE DIGIT |ZERO|ONE|TWO|THREE|FOUR|FIVE|SIX|SEVEN|EIGHT|NINE",
    "1d800 SIGNWRITING |HAND-FIST INDEX|HAND-CIRCLE INDEX|HAND-CUP INDEX",
    "1d803 SIGNWRITING |HAND-OVAL INDEX|HAND-HINGE INDEX|HAND-ANGLE INDEX|HAND-FIST INDEX BENT",
    "1d807 SIGNWRITING |HAND-CIRCLE INDEX BENT|HAND-FIST THUMB UNDER INDEX BENT",
    "1d809 SIGNWRITING HAND-FIST INDEX |RAISED KNUCKLE|CUPPED|HINGED|HINGED LOW",
    "1d80d SIGNWRITING |HAND-CIRCLE INDEX HINGE|HAND-FIST INDEX MIDDLE|HAND-CIRCLE INDEX MIDDLE",
    "1d810 SIGNWRITING HAND-FIST INDEX MIDDLE |BENT|RAISED KNUCKLES|HINGED",
    "1d813 SIGNWRITING HAND-FIST INDEX |UP MIDDLE HINGED|HINGED MIDDLE UP|MIDDLE CONJOINED",
    "1d816 SIGNWRITING HAND-FIST INDEX MIDDLE CONJOINED |INDEX BENT|MIDDLE BENT|CUPPED|HINGED",
    "1d81a SIGNWRITING |HAND-FIST INDEX MIDDLE CROSSED|HAND-CIRCLE INDEX MIDDLE CROSSED",
    "1d81c SIGNWRITING HAND-FIST |MIDDLE BENT OVER INDEX|INDEX BENT OVER MIDDLE",
    "1d81e SIGNWRITING |HAND-FIST INDEX MIDDLE THUMB|HAND-CIRCLE INDEX MIDDLE THUMB",
    "1d820 SIGNWRITING HAND-FIST INDEX MIDDLE |STRAIGHT THUMB BENT|BENT THUMB STRAIGHT",
    "1d822 SIGNWRITING HAND-FIST INDEX MIDDLE |THUMB BENT|HINGED SPREAD THUMB SIDE",
    "1d824 SIGNWRITING HAND-FIST INDEX UP MIDDLE HINGED THUMB |SIDE|CONJOINED",
    "1d826 |SIGNWRITING HAND-FIST INDEX HINGED MIDDLE UP THUMB SIDE",
    "1d827 |SIGNWRITING HAND-FIST INDEX MIDDLE UP SPREAD THUMB FORWARD",
    "1d828 SIGNWRITING HAND-FIST INDEX MIDDLE THUMB |CUPPED|CIRCLED|HOOKED|HINGED",
    "1d82c |SIGNWRITING HAND-FIST THUMB BETWEEN INDEX MIDDLE STRAIGHT",
    "1d82d SIGNWRITING HAND-FIST INDEX MIDDLE CONJOINED THUMB |SIDE|SIDE CONJOINED|SIDE BENT",
    "1d830 SIGNWRITING HAND-FIST |MIDDLE THUMB HOOKED INDEX UP|INDEX THUMB HOOKED MIDDLE UP",
    "1d832 SIGNWRITING HAND-FIST INDEX MIDDLE |CONJOINED HINGED THUMB SIDE|CROSSED THUMB SIDE",
    "1d834 SIGNWRITING HAND-FIST INDEX MIDDLE CONJOINED |THUMB FORWARD|CUPPED THUMB FORWARD",
    "1d836 SIGNWRITING HAND-FIST |MIDDLE THUMB CUPPED INDEX UP|INDEX THUMB CUPPED MIDDLE UP",
    "1d838 SIGNWRITING HAND-FIST MIDDLE THUMB CIRCLED INDEX |UP|HINGED",
    "1d83a SIGNWRITING HAND-FIST INDEX THUMB ANGLED |OUT MIDDLE UP|IN MIDDLE UP",
    "1d83c |SIGNWRITING HAND-FIST INDEX THUMB CIRCLED MIDDLE UP",
    "1d83d SIGNWRITING HAND-FIST INDEX MIDDLE THUMB |CONJOINED HINGED|ANGLED OUT|ANGLED",
    "1d840 SIGNWRITING HAND-FIST MIDDLE THUMB ANGLED |OUT INDEX UP|OUT INDEX CROSSED|INDEX UP",
    "1d843 SIGNWRITING |HAND-FIST INDEX THUMB HOOKED MIDDLE HINGED|HAND-FLAT FOUR FINGERS",
    "1d845 SIGNWRITING HAND-FLAT FOUR FINGERS |BENT|HINGED|CONJOINED|CONJOINED SPLIT",
    "1d849 SIGNWRITING |HAND-CLAW FOUR FINGERS CONJOINED|HAND-FIST FOUR FINGERS CONJOINED BENT",
    "1d84b SIGNWRITING |HAND-HINGE FOUR FINGERS CONJOINED|HAND-FLAT FIVE FINGERS SPREAD",
    "1d84d SIGNWRITING HAND-FLAT |HEEL FIVE FINGERS SPREAD|FIVE FINGERS SPREAD FOUR BENT",
    "1d84f SIGNWRITING HAND-FLAT |HEEL FIVE FINGERS SPREAD FOUR BENT|FIVE FINGERS SPREAD BENT",
    "1d851 SIGNWRITING HAND-FLAT |HEEL FIVE FINGERS SPREAD BENT|FIVE FINGERS SPREAD THUMB FORWARD",
    "1d853 SIGNWRITING HAND-CUP FIVE FINGERS |SPREAD|SPREAD OPEN",
    "1d855 SIGNWRITING |HAND-HINGE FIVE FINGERS SPREAD OPEN|HAND-OVAL FIVE FINGERS SPREAD",
    "1d857 SIGNWRITING HAND-FLAT FIVE FINGERS SPREAD |HINGED|HINGED THUMB SIDE|HINGED NO THUMB",
    "1d85a |SIGNWRITING HAND-FLAT",
    "1d85b SIGNWRITING HAND-FLAT |BETWEEN PALM FACINGS|HEEL|THUMB SIDE",
    "1d85e SIGNWRITING HAND-FLAT |HEEL THUMB SIDE|THUMB BENT|THUMB FORWARD|SPLIT INDEX THUMB SIDE",
    "1d862 SIGNWRITING HAND-FLAT SPLIT |CENTRE|CENTRE THUMB SIDE|CENTRE THUMB SIDE BENT|LITTLE",
    "1d866 SIGNWRITING |HAND-CLAW|HAND-CLAW THUMB SIDE|HAND-CLAW NO THUMB|HAND-CLAW THUMB FORWARD",
    "1d86a SIGNWRITING |HAND-HOOK CURLICUE|HAND-HOOK|HAND-CUP OPEN|HAND-CUP",
    "1d86e SIGNWRITING HAND-CUP |OPEN THUMB SIDE|THUMB SIDE",
    "1d870 SIGNWRITING HAND-CUP |OPEN NO THUMB|NO THUMB|OPEN THUMB FORWARD|THUMB FORWARD",
    "1d874 SIGNWRITING |HAND-CURLICUE OPEN|HAND-CURLICUE|HAND-CIRCLE|HAND-OVAL",
    "1d878 SIGNWRITING HAND-OVAL |THUMB SIDE|NO THUMB|THUMB FORWARD",
    "1d87b SIGNWRITING |HAND-HINGE OPEN|HAND-HINGE OPEN THUMB FORWARD|HAND-HINGE",
    "1d87e SIGNWRITING HAND-HINGE |SMALL|OPEN THUMB SIDE|THUMB SIDE|OPEN NO THUMB|NO THUMB",
    "1d883 SIGNWRITING HAND-HINGE THUMB |SIDE TOUCHING INDEX|BETWEEN MIDDLE RING",
    "1d885 SIGNWRITING |HAND-ANGLE|HAND-FIST INDEX MIDDLE RING",
    "1d887 SIGNWRITING |HAND-CIRCLE INDEX MIDDLE RING|HAND-HINGE INDEX MIDDLE RING",
    "1d889 SIGNWRITING |HAND-ANGLE INDEX MIDDLE RING|HAND-HINGE LITTLE",
    "1d88b SIGNWRITING HAND-FIST INDEX MIDDLE RING |BENT|CONJOINED",
    "1d88d |SIGNWRITING HAND-HINGE INDEX MIDDLE RING CONJOINED",
    "1d88e SIGNWRITING HAND-FIST LITTLE |DOWN|DOWN RIPPLE STRAIGHT|DOWN RIPPLE CURVED",
    "1d891 SIGNWRITING HAND-FIST |LITTLE DOWN OTHERS CIRCLED|LITTLE UP|THUMB UNDER LITTLE UP",
    "1d894 SIGNWRITING |HAND-CIRCLE LITTLE UP|HAND-OVAL LITTLE UP|HAND-ANGLE LITTLE UP",
    "1d897 SIGNWRITING HAND-FIST LITTLE |RAISED KNUCKLE|BENT|TOUCHES THUMB|THUMB",
    "1d89b |SIGNWRITING HAND-HINGE LITTLE THUMB",
    "1d89c SIGNWRITING |HAND-FIST LITTLE INDEX THUMB|HAND-HINGE LITTLE INDEX THUMB",
    "1d89e SIGNWRITING HAND-ANGLE LITTLE INDEX THUMB INDEX |THUMB OUT|THUMB",
    "1d8a0 SIGNWRITING |HAND-FIST LITTLE INDEX|HAND-CIRCLE LITTLE INDEX|HAND-HINGE LITTLE INDEX",
    "1d8a3 SIGNWRITING |HAND-ANGLE LITTLE INDEX|HAND-FIST INDEX MIDDLE LITTLE",
    "1d8a5 SIGNWRITING |HAND-CIRCLE INDEX MIDDLE LITTLE|HAND-HINGE INDEX MIDDLE LITTLE",
    "1d8a7 SIGNWRITING |HAND-HINGE RING|HAND-ANGLE INDEX MIDDLE LITTLE",
    "1d8a9 SIGNWRITING |HAND-FIST INDEX MIDDLE CROSS LITTLE|HAND-CIRCLE INDEX MIDDLE CROSS LITTLE",
    "1d8ab SIGNWRITING |HAND-FIST RING DOWN|HAND-HINGE RING DOWN INDEX THUMB HOOK MIDDLE",
    "1d8ad |SIGNWRITING HAND-ANGLE RING DOWN MIDDLE THUMB INDEX CROSS",
    "1d8ae SIGNWRITING HAND-FIST RING |UP|RAISED KNUCKLE|LITTLE",
    "1d8b1 SIGNWRITING |HAND-CIRCLE RING LITTLE|HAND-OVAL RING LITTLE|HAND-ANGLE RING LITTLE",
    "1d8b4 SIGNWRITING HAND-FIST RING |MIDDLE|MIDDLE CONJOINED|MIDDLE RAISED KNUCKLES|INDEX|THUMB",
    "1d8b9 SIGNWRITING |HAND-HOOK RING THUMB|HAND-FIST INDEX RING LITTLE",
    "1d8bb SIGNWRITING |HAND-CIRCLE INDEX RING LITTLE|HAND-CURLICUE INDEX RING LITTLE ON",
    "1d8bd SIGNWRITING HAND-HOOK INDEX RING LITTLE |OUT|IN|UNDER",
    "1d8c0 SIGNWRITING |HAND-CUP INDEX RING LITTLE|HAND-HINGE INDEX RING LITTLE",
    "1d8c2 SIGNWRITING HAND-ANGLE INDEX RING |LITTLE OUT|LITTLE",
    "1d8c4 SIGNWRITING |HAND-FIST MIDDLE DOWN|HAND-HINGE MIDDLE",
    "1d8c6 SIGNWRITING |HAND-FIST MIDDLE UP|HAND-CIRCLE MIDDLE UP|HAND-FIST MIDDLE RAISED KNUCKLE",
    "1d8c9 SIGNWRITING |HAND-FIST MIDDLE UP THUMB SIDE|HAND-HOOK MIDDLE THUMB",
    "1d8cb SIGNWRITING HAND-FIST MIDDLE |THUMB LITTLE|LITTLE|RING LITTLE",
    "1d8ce SIGNWRITING |HAND-CIRCLE MIDDLE RING LITTLE|HAND-CURLICUE MIDDLE RING LITTLE ON",
    "1d8d0 SIGNWRITING |HAND-CUP MIDDLE RING LITTLE|HAND-HINGE MIDDLE RING LITTLE",
    "1d8d2 SIGNWRITING HAND-ANGLE MIDDLE RING |LITTLE OUT|LITTLE IN|LITTLE",
    "1d8d5 |SIGNWRITING HAND-CIRCLE MIDDLE RING LITTLE BENT",
    "1d8d6 SIGNWRITING HAND-CLAW MIDDLE RING LITTLE |CONJOINED|CONJOINED SIDE",
    "1d8d8 SIGNWRITING HAND-HOOK MIDDLE RING LITTLE |CONJOINED OUT|CONJOINED IN|CONJOINED",
    "1d8db |SIGNWRITING HAND-HINGE INDEX HINGED",
    "1d8dc SIGNWRITING |HAND-FIST INDEX THUMB SIDE|HAND-HINGE INDEX THUMB SIDE",
    "1d8de SIGNWRITING HAND-FIST INDEX THUMB SIDE THUMB |DIAGONAL|CONJOINED|BENT",
    "1d8e1 SIGNWRITING HAND-FIST INDEX THUMB SIDE |INDEX BENT|BOTH BENT|INDEX HINGE",
    "1d8e4 SIGNWRITING HAND-FIST INDEX THUMB FORWARD INDEX |STRAIGHT|BENT",
    "1d8e6 SIGNWRITING HAND-FIST INDEX THUMB |HOOK|CURLICUE|CURVE THUMB INSIDE",
    "1d8e9 |SIGNWRITING HAND-CLAW INDEX THUMB CURVE THUMB INSIDE",
    "1d8ea SIGNWRITING HAND-FIST INDEX THUMB |CURVE THUMB UNDER|CIRCLE",
    "1d8ec SIGNWRITING HAND-CUP INDEX |THUMB|THUMB OPEN",
    "1d8ee SIGNWRITING HAND-HINGE INDEX |THUMB OPEN|THUMB LARGE|THUMB|THUMB SMALL",
    "1d8f2 SIGNWRITING HAND-ANGLE INDEX |THUMB OUT|THUMB IN|THUMB",
    "1d8f5 |SIGNWRITING HAND-FIST THUMB",
    "1d8f6 SIGNWRITING HAND-FIST THUMB |HEEL|SIDE DIAGONAL|SIDE CONJOINED|SIDE BENT|FORWARD",
    "1d8fb SIGNWRITING HAND-FIST THUMB BETWEEN |INDEX MIDDLE|MIDDLE RING|RING LITTLE",
    "1d8fe SIGNWRITING HAND-FIST THUMB |UNDER TWO FINGERS|OVER TWO FINGERS|UNDER THREE FINGERS",
    "1d901 SIGNWRITING HAND-FIST THUMB |UNDER FOUR FINGERS|OVER FOUR RAISED KNUCKLES",
    "1d903 SIGNWRITING |HAND-FIST|HAND-FIST HEEL|TOUCH SINGLE|TOUCH MULTIPLE|TOUCH BETWEEN",
    "1d908 SIGNWRITING GRASP |SINGLE|MULTIPLE|BETWEEN",
    "1d90b SIGNWRITING STRIKE |SINGLE|MULTIPLE|BETWEEN",
    "1d90e SIGNWRITING |BRUSH SINGLE|BRUSH MULTIPLE|BRUSH BETWEEN|RUB SINGLE|RUB MULTIPLE",
    "1d913 SIGNWRITING |RUB BETWEEN|SURFACE SYMBOLS|SURFACE BETWEEN|SQUEEZE LARGE SINGLE",
    "1d917 SIGNWRITING SQUEEZE |SMALL SINGLE|LARGE MULTIPLE|SMALL MULTIPLE|SEQUENTIAL",
    "1d91b SIGNWRITING FLICK |LARGE SINGLE|SMALL SINGLE|LARGE MULTIPLE|SMALL MULTIPLE|SEQUENTIAL",
    "1d920 |SIGNWRITING SQUEEZE FLICK ALTERNATING",
    "1d921 SIGNWRITING MOVEMENT-HINGE |UP DOWN LARGE|UP DOWN SMALL|UP SEQUENTIAL|DOWN SEQUENTIAL",
    "1d925 SIGNWRITING MOVEMENT-HINGE UP DOWN ALTERNATING |LARGE|SMALL",
    "1d927 |SIGNWRITING MOVEMENT-HINGE SIDE TO SIDE SCISSORS",
    "1d928 SIGNWRITING |MOVEMENT-WALLPLANE FINGER CONTACT|MOVEMENT-FLOORPLANE FINGER CONTACT",
    "1d92a SIGNWRITING MOVEMENT-WALLPLANE SINGLE STRAIGHT |SMALL|MEDIUM|LARGE|LARGEST",
    "1d92e SIGNWRITING MOVEMENT-WALLPLANE |SINGLE WRIST FLEX|DOUBLE STRAIGHT",
    "1d930 SIGNWRITING MOVEMENT-WALLPLANE DOUBLE |WRIST FLEX|ALTERNATING|ALTERNATING WRIST FLEX",
    "1d933 SIGNWRITING MOVEMENT-WALLPLANE |CROSS|TRIPLE STRAIGHT MOVEMENT",
    "1d935 SIGNWRITING MOVEMENT-WALLPLANE TRIPLE |WRIST FLEX|ALTERNATING|ALTERNATING WRIST FLEX",
    "1d938 SIGNWRITING MOVEMENT-WALLPLANE BEND |SMALL|MEDIUM|LARGE",
    "1d93b SIGNWRITING MOVEMENT-WALLPLANE CORNER |SMALL|MEDIUM|LARGE|ROTATION",
    "1d93f SIGNWRITING MOVEMENT-WALLPLANE CHECK |SMALL|MEDIUM|LARGE",
    "1d942 SIGNWRITING MOVEMENT-WALLPLANE BOX |SMALL|MEDIUM|LARGE",
    "1d945 SIGNWRITING MOVEMENT-WALLPLANE ZIGZAG |SMALL|MEDIUM|LARGE",
    "1d948 SIGNWRITING MOVEMENT-WALLPLANE PEAKS |SMALL|MEDIUM|LARGE",
    "1d94b SIGNWRITING TRAVEL-WALLPLANE ROTATION-WALLPLANE |SINGLE|DOUBLE|ALTERNATING",
    "1d94e SIGNWRITING TRAVEL-WALLPLANE ROTATION-FLOORPLANE |SINGLE|DOUBLE|ALTERNATING",
    "1d951 |SIGNWRITING TRAVEL-WALLPLANE SHAKING",
    "1d952 SIGNWRITING TRAVEL-WALLPLANE ARM SPIRAL |SINGLE|DOUBLE|TRIPLE",
    "1d955 SIGNWRITING MOVEMENT-DIAGONAL AWAY |SMALL|MEDIUM|LARGE|LARGEST",
    "1d959 SIGNWRITING MOVEMENT-DIAGONAL TOWARDS |SMALL|MEDIUM|LARGE|LARGEST",
    "1d95d SIGNWRITING MOVEMENT-DIAGONAL BETWEEN AWAY |SMALL|MEDIUM|LARGE|LARGEST",
    "1d961 SIGNWRITING MOVEMENT-DIAGONAL BETWEEN TOWARDS |SMALL|MEDIUM|LARGE|LARGEST",
    "1d965 SIGNWRITING MOVEMENT-FLOORPLANE SINGLE STRAIGHT |SMALL|MEDIUM|LARGE|LARGEST",
    "1d969 SIGNWRITING MOVEMENT-FLOORPLANE |SINGLE WRIST FLEX|DOUBLE STRAIGHT",
    "1d96b SIGNWRITING MOVEMENT-FLOORPLANE DOUBLE |WRIST FLEX|ALTERNATING|ALTERNATING WRIST FLEX",
    "1d96e SIGNWRITING MOVEMENT-FLOORPLANE |CROSS|TRIPLE STRAIGHT MOVEMENT|TRIPLE WRIST FLEX",
    "1d971 SIGNWRITING MOVEMENT-FLOORPLANE TRIPLE ALTERNATING |MOVEMENT|WRIST FLEX",
    "1d973 SIGNWRITING MOVEMENT-FLOORPLANE |BEND|CORNER SMALL|CORNER MEDIUM|CORNER LARGE|CHECK",
    "1d978 SIGNWRITING MOVEMENT-FLOORPLANE BOX |SMALL|MEDIUM|LARGE",
    "1d97b SIGNWRITING MOVEMENT-FLOORPLANE ZIGZAG |SMALL|MEDIUM|LARGE",
    "1d97e SIGNWRITING MOVEMENT-FLOORPLANE PEAKS |SMALL|MEDIUM|LARGE",
    "1d981 SIGNWRITING TRAVEL-FLOORPLANE ROTATION-FLOORPLANE |SINGLE|DOUBLE|ALTERNATING",
    "1d984 SIGNWRITING TRAVEL-FLOORPLANE ROTATION-WALLPLANE |SINGLE|DOUBLE|ALTERNATING",
    "1d987 |SIGNWRITING TRAVEL-FLOORPLANE SHAKING",
    "1d988 SIGNWRITING MOVEMENT-WALLPLANE CURVE QUARTER |SMALL|MEDIUM|LARGE|LARGEST",
    "1d98c SIGNWRITING MOVEMENT-WALLPLANE CURVE HALF-CIRCLE |SMALL|MEDIUM|LARGE|LARGEST",
    "1d990 SIGNWRITING MOVEMENT-WALLPLANE CURVE THREE-QUARTER CIRCLE |SMALL|MEDIUM",
    "1d992 SIGNWRITING MOVEMENT-WALLPLANE HUMP |SMALL|MEDIUM|LARGE",
    "1d995 SIGNWRITING MOVEMENT-WALLPLANE LOOP |SMALL|MEDIUM|LARGE|SMALL DOUBLE",
    "1d999 SIGNWRITING MOVEMENT-WALLPLANE WAVE CURVE DOUBLE |SMALL|MEDIUM|LARGE",
    "1d99c SIGNWRITING MOVEMENT-WALLPLANE WAVE CURVE TRIPLE |SMALL|MEDIUM|LARGE",
    "1d99f |SIGNWRITING MOVEMENT-WALLPLANE CURVE THEN STRAIGHT",
    "1d9a0 SIGNWRITING MOVEMENT-WALLPLANE CURVED CROSS |SMALL|MEDIUM",
    "1d9a2 SIGNWRITING ROTATION-WALLPLANE |SINGLE|DOUBLE|ALTERNATE",
    "1d9a5 |SIGNWRITING MOVEMENT-WALLPLANE SHAKING",
    "1d9a6 SIGNWRITING MOVEMENT-WALLPLANE |CURVE HITTING FRONT WALL|HUMP HITTING FRONT WALL",
    "1d9a8 SIGNWRITING MOVEMENT-WALLPLANE |LOOP HITTING FRONT WALL|WAVE HITTING FRONT WALL",
    "1d9aa SIGNWRITING ROTATION-WALLPLANE |SINGLE HITTING FRONT WALL|DOUBLE HITTING FRONT WALL",
    "1d9ac |SIGNWRITING ROTATION-WALLPLANE ALTERNATING HITTING FRONT WALL",
    "1d9ad SIGNWRITING MOVEMENT-WALLPLANE |CURVE HITTING CHEST|HUMP HITTING CHEST",
    "1d9af SIGNWRITING MOVEMENT-WALLPLANE |LOOP HITTING CHEST|WAVE HITTING CHEST",
    "1d9b1 |SIGNWRITING ROTATION-WALLPLANE SINGLE HITTING CHEST",
    "1d9b2 SIGNWRITING ROTATION-WALLPLANE |DOUBLE HITTING CHEST|ALTERNATING HITTING CHEST",
    "1d9b4 SIGNWRITING MOVEMENT-WALLPLANE WAVE DIAGONAL PATH |SMALL|MEDIUM|LARGE",
    "1d9b7 SIGNWRITING MOVEMENT-FLOORPLANE CURVE HITTING CEILING |SMALL|LARGE",
    "1d9b9 SIGNWRITING MOVEMENT-FLOORPLANE HUMP HITTING CEILING |SMALL DOUBLE|LARGE DOUBLE",
    "1d9bb SIGNWRITING MOVEMENT-FLOORPLANE HUMP HITTING CEILING |SMALL TRIPLE|LARGE TRIPLE",
    "1d9bd SIGNWRITING MOVEMENT-FLOORPLANE LOOP HITTING CEILING |SMALL SINGLE|LARGE SINGLE",
    "1d9bf SIGNWRITING MOVEMENT-FLOORPLANE LOOP HITTING CEILING |SMALL DOUBLE|LARGE DOUBLE",
    "1d9c1 SIGNWRITING MOVEMENT-FLOORPLANE WAVE HITTING CEILING |SMALL|LARGE",
    "1d9c3 |SIGNWRITING ROTATION-FLOORPLANE SINGLE HITTING CEILING",
    "1d9c4 SIGNWRITING ROTATION-FLOORPLANE |DOUBLE HITTING CEILING|ALTERNATING HITTING CEILING",
    "1d9c6 SIGNWRITING MOVEMENT-FLOORPLANE CURVE HITTING FLOOR |SMALL|LARGE",
    "1d9c8 SIGNWRITING MOVEMENT-FLOORPLANE HUMP HITTING FLOOR |SMALL DOUBLE|LARGE DOUBLE",
    "1d9ca SIGNWRITING MOVEMENT-FLOORPLANE HUMP HITTING FLOOR TRIPLE |SMALL TRIPLE|LARGE TRIPLE",
    "1d9cc SIGNWRITING MOVEMENT-FLOORPLANE LOOP HITTING FLOOR |SMALL SINGLE|LARGE SINGLE",
    "1d9ce SIGNWRITING MOVEMENT-FLOORPLANE LOOP HITTING FLOOR |SMALL DOUBLE|LARGE DOUBLE",
    "1d9d0 SIGNWRITING MOVEMENT-FLOORPLANE WAVE HITTING FLOOR |SMALL|LARGE",
    "1d9d2 |SIGNWRITING ROTATION-FLOORPLANE SINGLE HITTING FLOOR",
    "1d9d3 SIGNWRITING ROTATION-FLOORPLANE |DOUBLE HITTING FLOOR|ALTERNATING HITTING FLOOR",
    "1d9d5 SIGNWRITING MOVEMENT-FLOORPLANE CURVE |SMALL|MEDIUM|LARGE|LARGEST|COMBINED",
    "1d9da SIGNWRITING MOVEMENT-FLOORPLANE |HUMP SMALL|LOOP SMALL",
    "1d9dc SIGNWRITING MOVEMENT-FLOORPLANE WAVE |SNAKE|SMALL|LARGE",
    "1d9df SIGNWRITING ROTATION-FLOORPLANE |SINGLE|DOUBLE|ALTERNATING",
    "1d9e2 |SIGNWRITING MOVEMENT-FLOORPLANE SHAKING PARALLEL",
    "1d9e3 |SIGNWRITING MOVEMENT-WALLPLANE ARM CIRCLE SMALL SINGLE",
    "1d9e4 SIGNWRITING MOVEMENT-WALLPLANE ARM CIRCLE |MEDIUM SINGLE|SMALL DOUBLE|MEDIUM DOUBLE",
    "1d9e7 SIGNWRITING MOVEMENT-FLOORPLANE ARM CIRCLE HITTING WALL |SMALL SINGLE|MEDIUM SINGLE",
    "1d9e9 SIGNWRITING MOVEMENT-FLOORPLANE ARM CIRCLE HITTING WALL |LARGE SINGLE|SMALL DOUBLE",
    "1d9eb SIGNWRITING MOVEMENT-FLOORPLANE ARM CIRCLE HITTING WALL |MEDIUM DOUBLE|LARGE DOUBLE",
    "1d9ed SIGNWRITING MOVEMENT-WALLPLANE WRIST CIRCLE FRONT |SINGLE|DOUBLE",
    "1d9ef SIGNWRITING MOVEMENT-FLOORPLANE WRIST CIRCLE HITTING WALL |SINGLE|DOUBLE",
    "1d9f1 SIGNWRITING MOVEMENT-WALLPLANE FINGER CIRCLES |SINGLE|DOUBLE",
    "1d9f3 SIGNWRITING MOVEMENT-FLOORPLANE FINGER CIRCLES HITTING WALL |SINGLE|DOUBLE",
    "1d9f5 SIGNWRITING DYNAMIC |ARROWHEAD SMALL|ARROWHEAD LARGE|FAST|SLOW|TENSE|RELAXED",
    "1d9fb SIGNWRITING DYNAMIC |SIMULTANEOUS|SIMULTANEOUS ALTERNATING|EVERY OTHER TIME|GRADUAL",
    "1d9ff SIGNWRITING |HEAD|HEAD RIM|HEAD MOVEMENT-WALLPLANE STRAIGHT",
    "1da02 SIGNWRITING HEAD |MOVEMENT-WALLPLANE TILT|MOVEMENT-FLOORPLANE STRAIGHT",
    "1da04 SIGNWRITING HEAD |MOVEMENT-WALLPLANE CURVE|MOVEMENT-FLOORPLANE CURVE|MOVEMENT CIRCLE",
    "1da07 |SIGNWRITING FACE DIRECTION POSITION NOSE FORWARD TILTING",
    "1da08 SIGNWRITING FACE DIRECTION POSITION NOSE UP OR |DOWN|DOWN TILTING",
    "1da0a SIGNWRITING EYEBROWS STRAIGHT |UP|NEUTRAL|DOWN",
    "1da0d SIGNWRITING DREAMY EYEBROWS |NEUTRAL DOWN|DOWN NEUTRAL|UP NEUTRAL|NEUTRAL UP",
    "1da11 SIGNWRITING FOREHEAD |NEUTRAL|CONTACT|WRINKLED",
    "1da14 SIGNWRITING |EYES OPEN|EYES SQUEEZED|EYES CLOSED|EYE BLINK SINGLE|EYE BLINK MULTIPLE",
    "1da19 SIGNWRITING EYES |HALF OPEN|WIDE OPEN|HALF CLOSED|WIDENING MOVEMENT",
    "1da1d SIGNWRITING |EYE WINK|EYELASHES UP|EYELASHES DOWN|EYELASHES FLUTTERING",
    "1da21 SIGNWRITING EYEGAZE-WALLPLANE |STRAIGHT|STRAIGHT DOUBLE|STRAIGHT ALTERNATING",
    "1da24 SIGNWRITING EYEGAZE-FLOORPLANE |STRAIGHT|STRAIGHT DOUBLE|STRAIGHT ALTERNATING",
    "1da27 SIGNWRITING |EYEGAZE-WALLPLANE CURVED|EYEGAZE-FLOORPLANE CURVED",
    "1da29 SIGNWRITING |EYEGAZE-WALLPLANE CIRCLING|CHEEKS PUFFED|CHEEKS NEUTRAL|CHEEKS SUCKED",
    "1da2d SIGNWRITING TENSE CHEEKS |HIGH|MIDDLE|LOW",
    "1da30 SIGNWRITING |EARS|NOSE NEUTRAL|NOSE CONTACT|NOSE WRINKLES|NOSE WIGGLES",
    "1da35 SIGNWRITING AIR |BLOWING OUT|SUCKING IN|BLOW SMALL ROTATIONS|SUCK SMALL ROTATIONS",
    "1da39 SIGNWRITING BREATH |INHALE|EXHALE",
    "1da3b SIGNWRITING MOUTH CLOSED |NEUTRAL|FORWARD|CONTACT",
    "1da3e SIGNWRITING MOUTH |SMILE|SMILE WRINKLED|SMILE OPEN|FROWN|FROWN WRINKLED|FROWN OPEN",
    "1da44 SIGNWRITING MOUTH OPEN |CIRCLE|FORWARD|WRINKLED|OVAL|OVAL WRINKLED|OVAL YAWN|RECTANGLE",
    "1da4b SIGNWRITING MOUTH OPEN RECTANGLE |WRINKLED|YAWN",
    "1da4d SIGNWRITING MOUTH |KISS|KISS FORWARD|KISS WRINKLED|TENSE|TENSE FORWARD|TENSE SUCKED",
    "1da53 SIGNWRITING |LIPS PRESSED TOGETHER|LIP LOWER OVER UPPER|LIP UPPER OVER LOWER",
    "1da56 SIGNWRITING MOUTH |CORNERS|WRINKLES SINGLE|WRINKLES DOUBLE",
    "1da59 SIGNWRITING TONGUE |STICKING OUT FAR|LICKING LIPS|TIP BETWEEN LIPS",
    "1da5c SIGNWRITING TONGUE |TIP TOUCHING INSIDE MOUTH|INSIDE MOUTH RELAXED|MOVES AGAINST CHEEK",
    "1da5f SIGNWRITING TONGUE CENTRE |STICKING OUT|INSIDE MOUTH",
    "1da61 SIGNWRITING |TEETH|TEETH MOVEMENT",
    "1da63 SIGNWRITING TEETH |ON TONGUE|ON TONGUE MOVEMENT|ON LIPS|ON LIPS MOVEMENT|BITE LIPS",
    "1da68 SIGNWRITING |MOVEMENT-WALLPLANE JAW|MOVEMENT-FLOORPLANE JAW|NECK|HAIR|EXCITEMENT",
    "1da6d SIGNWRITING |SHOULDER HIP SPINE|SHOULDER HIP POSITIONS|WALLPLANE SHOULDER HIP MOVE",
    "1da70 SIGNWRITING |FLOORPLANE SHOULDER HIP MOVE|SHOULDER TILTING FROM WAIST",
    "1da72 SIGNWRITING TORSO-WALLPLANE |STRAIGHT STRETCH|CURVED BEND",
    "1da74 SIGNWRITING |TORSO-FLOORPLANE TWISTING|UPPER BODY TILTING FROM HIP JOINTS",
    "1da76 SIGNWRITING LIMB |COMBINATION|LENGTH-1|LENGTH-2|LENGTH-3|LENGTH-4|LENGTH-5|LENGTH-6",
    "1da7d SIGNWRITING |LIMB LENGTH-7|FINGER|LOCATION-WALLPLANE SPACE|LOCATION-FLOORPLANE SPACE",
    "1da81 SIGNWRITING LOCATION |HEIGHT|WIDTH|DEPTH|HEAD NECK|TORSO|LIMBS DIGITS",
    "1da87 SIGNWRITING |COMMA|FULL STOP|SEMICOLON|COLON|PARENTHESIS",
    "1da9b SIGNWRITING FILL |MODIFIER-2|MODIFIER-3|MODIFIER-4|MODIFIER-5|MODIFIER-6",
    "1daa1 SIGNWRITING ROTATION |MODIFIER-2|MODIFIER-3|MODIFIER-4|MODIFIER-5|MODIFIER-6",
    "1daa6 SIGNWRITING ROTATION |MODIFIER-7|MODIFIER-8|MODIFIER-9|MODIFIER-10|MODIFIER-11",
    "1daab SIGNWRITING ROTATION |MODIFIER-12|MODIFIER-13|MODIFIER-14|MODIFIER-15|MODIFIER-16",
    "1df00 LATIN SMALL LETTER |FENG DIGRAPH WITH TRILL|REVERSED SCRIPT G",
    "1df02 |LATIN LETTER SMALL CAPITAL TURNED G",
    "1df03 LATIN |SMALL LETTER REVERSED K|LETTER SMALL CAPITAL L WITH BELT",
    "1df05 LATIN SMALL LETTER |LEZH WITH RETROFLEX HOOK|TURNED Y WITH BELT",
    "1df07 LATIN SMALL LETTER |REVERSED ENG|TURNED R WITH LONG LEG AND RETROFLEX HOOK",
    "1df09 |LATIN SMALL LETTER T WITH HOOK AND RETROFLEX HOOK",
    "1df0a LATIN |LETTER RETROFLEX CLICK WITH RETROFLEX HOOK|SMALL LETTER ESH WITH DOUBLE BAR",
    "1df0c LATIN SMALL LETTER |ESH WITH DOUBLE BAR AND CURL|TURNED T WITH CURL",
    "1df0e LATIN LETTER |INVERTED GLOTTAL STOP WITH CURL|STRETCHED C WITH CURL",
    "1df10 LATIN |LETTER SMALL CAPITAL TURNED K|SMALL LETTER L WITH FISHHOOK",
    "1df12 LATIN SMALL LETTER |DEZH DIGRAPH WITH PALATAL HOOK|L WITH BELT AND PALATAL HOOK",
    "1df14 LATIN SMALL LETTER |ENG WITH PALATAL HOOK|TURNED R WITH PALATAL HOOK",
    "1df16 LATIN SMALL LETTER |R WITH FISHHOOK AND PALATAL HOOK|TESH DIGRAPH WITH PALATAL HOOK",
    "1df18 LATIN SMALL LETTER |EZH WITH PALATAL HOOK|DEZH DIGRAPH WITH RETROFLEX HOOK",
    "1df1a LATIN SMALL LETTER |I WITH STROKE AND RETROFLEX HOOK|O WITH RETROFLEX HOOK",
    "1df1c LATIN SMALL LETTER |TESH DIGRAPH WITH RETROFLEX HOOK|C WITH RETROFLEX HOOK|S WITH CURL"]

end Name
end Text
end DebugIndex
