/-!
# The names of the scripts of the ancient world

The names that Unicode 14 gives to the code points from U+10000 to U+10FF6.  A row
begins with its first code point and what its names have in common; the endings
of the names of that point and those behind it follow, each after a bar.
-/

namespace DebugIndex
namespace Text
namespace Name

/-- The rows of the table, in ascending order. -/
def ancientRows : List String :=
  ["10000 LINEAR B SYLLABLE |B008 A|B038 E|B028 I|B061 O",
    "10004 LINEAR B SYLLABLE |B010 U|B001 DA|B045 DE|B007 DI|B014 DO|B051 DU|B057 JA|B046 JE",
    "1000d LINEAR B SYLLABLE |B036 JO|B065 JU",
    "1000f LINEAR B SYLLABLE |B077 KA|B044 KE|B067 KI|B070 KO|B081 KU|B080 MA|B013 ME|B073 MI",
    "10017 LINEAR B SYLLABLE |B015 MO|B023 MU|B006 NA|B024 NE|B030 NI|B052 NO|B055 NU|B003 PA",
    "1001f LINEAR B SYLLABLE |B072 PE|B039 PI|B011 PO|B050 PU|B016 QA|B078 QE|B021 QI|B032 QO",
    "10028 LINEAR B SYLLABLE |B060 RA|B027 RE|B053 RI",
    "1002b LINEAR B SYLLABLE |B002 RO|B026 RU|B031 SA|B009 SE|B041 SI|B012 SO|B058 SU|B059 TA",
    "10033 LINEAR B SYLLABLE |B004 TE|B037 TI|B005 TO|B069 TU|B054 WA|B075 WE|B040 WI|B042 WO",
    "1003c LINEAR B SYLLABLE |B017 ZA|B074 ZE",
    "1003f LINEAR B SYLLABLE |B020 ZO|B025 A2|B043 A3|B085 AU|B071 DWE|B090 DWO|B048 NWA|B029 PU2",
    "10047 LINEAR B SYLLABLE |B062 PTE|B076 RA2|B033 RA3|B068 RO2|B066 TA2|B087 TWE|B091 TWO",
    "10050 LINEAR B SYMBOL |B018|B019|B022|B034|B047|B049|B056|B063|B064|B079|B082|B083|B086|B089",
    "10080 LINEAR B IDEOGRAM |B100 MAN|B102 WOMAN|B104 DEER|B105 EQUID",
    "10084 LINEAR B IDEOGRAM |B105F MARE|B105M STALLION|B106F EWE|B106M RAM|B107F SHE-GOAT",
    "10089 LINEAR B IDEOGRAM |B107M HE-GOAT|B108F SOW|B108M BOAR|B109F COW|B109M BULL",
    "1008e LINEAR B IDEOGRAM |B120 WHEAT|B121 BARLEY|B122 OLIVE|B123 SPICE|B125 CYPERUS",
    "10093 LINEAR B MONOGRAM |B127 KAPO|B128 KANAKO",
    "10095 LINEAR B IDEOGRAM |B130 OIL|B131 WINE|B132",
    "10098 LINEAR B MONOGRAM |B133 AREPA|B135 MERI",
    "1009a LINEAR B IDEOGRAM |B140 BRONZE|B141 GOLD|B142|B145 WOOL|B146|B150|B151 HORN|B152|B153",
    "100a3 LINEAR B |IDEOGRAM B154|MONOGRAM B156 TURO2",
    "100a5 LINEAR B IDEOGRAM |B157|B158|B159 CLOTH|B160|B161|B162 GARMENT|B163 ARMOUR|B164",
    "100ad LINEAR B IDEOGRAM |B165|B166|B167|B168|B169|B170|B171|B172|B173 MONTH|B174|B176 TREE",
    "100b8 LINEAR B IDEOGRAM |B177|B178|B179|B180|B181|B182|B183|B184|B185|B189|B190|B191 HELMET",
    "100c4 LINEAR B IDEOGRAM |B220 FOOTSTOOL|B225 BATHTUB|B230 SPEAR|B231 ARROW|B232|B233 SWORD",
    "100ca LINEAR B IDEOGRAM |B234|B236|B240 WHEELED CHARIOT|B241 CHARIOT|B242 CHARIOT FRAME",
    "100cf LINEAR B |IDEOGRAM B243 WHEEL|IDEOGRAM B245|IDEOGRAM B246|MONOGRAM B247 DIPTE",
    "100d3 LINEAR B IDEOGRAM |B248|B249|B251|B252|B253|B254 DART|B255|B256|B257|B258|B259",
    "100de LINEAR B IDEOGRAM VESSEL |B155|B200|B201|B202|B203",
    "100e3 LINEAR B IDEOGRAM VESSEL |B204|B205|B206|B207|B208|B209|B210|B211|B212|B213|B214|B215",
    "100ef LINEAR B IDEOGRAM VESSEL |B216|B217|B218|B219|B221|B222|B226|B227|B228|B229|B250|B305",
    "10100 AEGEAN |WORD SEPARATOR LINE|WORD SEPARATOR DOT|CHECK MARK",
    "10107 AEGEAN NUMBER |ONE|TWO|THREE|FOUR",
    "1010b AEGEAN NUMBER |FIVE|SIX|SEVEN|EIGHT|NINE|TEN|TWENTY|THIRTY|FORTY|FIFTY|SIXTY|SEVENTY",
    "10117 AEGEAN NUMBER |EIGHTY|NINETY|ONE HUNDRED|TWO HUNDRED|THREE HUNDRED|FOUR HUNDRED",
    "1011d AEGEAN NUMBER |FIVE HUNDRED|SIX HUNDRED|SEVEN HUNDRED|EIGHT HUNDRED|NINE HUNDRED",
    "10122 AEGEAN NUMBER |ONE THOUSAND|TWO THOUSAND|THREE THOUSAND|FOUR THOUSAND|FIVE THOUSAND",
    "10127 AEGEAN NUMBER |SIX THOUSAND|SEVEN THOUSAND|EIGHT THOUSAND|NINE THOUSAND|TEN THOUSAND",
    "1012c AEGEAN NUMBER |TWENTY THOUSAND|THIRTY THOUSAND|FORTY THOUSAND|FIFTY THOUSAND",
    "10130 AEGEAN NUMBER |SIXTY THOUSAND|SEVENTY THOUSAND|EIGHTY THOUSAND|NINETY THOUSAND",
    "10137 AEGEAN WEIGHT |BASE UNIT|FIRST SUBUNIT|SECOND SUBUNIT|THIRD SUBUNIT|FOURTH SUBUNIT",
    "1013c AEGEAN |DRY MEASURE FIRST SUBUNIT|LIQUID MEASURE FIRST SUBUNIT",
    "1013e AEGEAN MEASURE |SECOND SUBUNIT|THIRD SUBUNIT",
    "10140 GREEK ACROPHONIC ATTIC ONE |QUARTER|HALF|DRACHMA",
    "10143 GREEK ACROPHONIC ATTIC |FIVE|FIFTY|FIVE HUNDRED|FIVE THOUSAND",
    "10147 GREEK ACROPHONIC ATTIC |FIFTY THOUSAND|FIVE TALENTS|TEN TALENTS|FIFTY TALENTS",
    "1014b GREEK ACROPHONIC ATTIC |ONE HUNDRED TALENTS|FIVE HUNDRED TALENTS|ONE THOUSAND TALENTS",
    "1014e GREEK ACROPHONIC ATTIC |FIVE THOUSAND TALENTS|FIVE STATERS|TEN STATERS|FIFTY STATERS",
    "10152 GREEK ACROPHONIC ATTIC |ONE HUNDRED STATERS|FIVE HUNDRED STATERS|ONE THOUSAND STATERS",
    "10155 GREEK ACROPHONIC ATTIC |TEN THOUSAND STATERS|FIFTY THOUSAND STATERS|TEN MNAS",
    "10158 GREEK ACROPHONIC |HERAEUM ONE PLETHRON|THESPIAN ONE|HERMIONIAN ONE|EPIDAUREAN TWO",
    "1015c GREEK ACROPHONIC |THESPIAN TWO|CYRENAIC TWO DRACHMAS|EPIDAUREAN TWO DRACHMAS",
    "1015f GREEK ACROPHONIC TROEZENIAN |FIVE|TEN|TEN ALTERNATE FORM",
    "10162 GREEK ACROPHONIC |HERMIONIAN TEN|MESSENIAN TEN|THESPIAN TEN|THESPIAN THIRTY",
    "10166 GREEK ACROPHONIC |TROEZENIAN FIFTY|TROEZENIAN FIFTY ALTERNATE FORM|HERMIONIAN FIFTY",
    "10169 GREEK ACROPHONIC THESPIAN |FIFTY|ONE HUNDRED|THREE HUNDRED",
    "1016c GREEK ACROPHONIC |EPIDAUREAN FIVE HUNDRED|TROEZENIAN FIVE HUNDRED",
    "1016e GREEK ACROPHONIC |THESPIAN FIVE HUNDRED|CARYSTIAN FIVE HUNDRED|NAXIAN FIVE HUNDRED",
    "10171 GREEK ACROPHONIC THESPIAN |ONE THOUSAND|FIVE THOUSAND",
    "10173 GREEK ACROPHONIC |DELPHIC FIVE MNAS|STRATIAN FIFTY MNAS",
    "10175 GREEK |ONE HALF SIGN|ONE HALF SIGN ALTERNATE FORM|TWO THIRDS SIGN|THREE QUARTERS SIGN",
    "10179 GREEK |YEAR SIGN|TALENT SIGN|DRACHMA SIGN|OBOL SIGN|TWO OBOLS SIGN|THREE OBOLS SIGN",
    "1017f GREEK |FOUR OBOLS SIGN|FIVE OBOLS SIGN|METRETES SIGN|KYATHOS BASE SIGN",
    "10183 GREEK |LITRA SIGN|OUNKIA SIGN|XESTES SIGN|ARTABE SIGN|AROURA SIGN|GRAMMA SIGN",
    "10189 GREEK |TRYBLION BASE SIGN|ZERO SIGN|ONE QUARTER SIGN|SINUSOID SIGN|INDICTION SIGN",
    "1018e |NOMISMA SIGN",
    "10190 ROMAN |SEXTANS SIGN|UNCIA SIGN|SEMUNCIA SIGN|SEXTULA SIGN|DIMIDIA SEXTULA SIGN",
    "10195 ROMAN |SILIQUA SIGN|DENARIUS SIGN|QUINARIUS SIGN|SESTERTIUS SIGN|DUPONDIUS SIGN",
    "1019a |ROMAN AS SIGN|ROMAN CENTURIAL SIGN|ASCIA SYMBOL",
    "101a0 |GREEK SYMBOL TAU RHO",
    "101d0 PHAISTOS DISC SIGN |PEDESTRIAN|PLUMED HEAD",
    "101d2 PHAISTOS DISC SIGN |TATTOOED HEAD|CAPTIVE|CHILD|WOMAN|HELMET|GAUNTLET|TIARA|ARROW",
    "101da PHAISTOS DISC SIGN |BOW|SHIELD|CLUB|MANACLES|MATTOCK|SAW|LID|BOOMERANG|CARPENTRY PLANE",
    "101e3 PHAISTOS DISC SIGN |DOLIUM|COMB|SLING|COLUMN|BEEHIVE|SHIP|HORN|HIDE|BULLS LEG|CAT|RAM",
    "101ee PHAISTOS DISC SIGN |EAGLE|DOVE|TUNNY|BEE|PLANE TREE|VINE|PAPYRUS|ROSETTE|LILY|OX BACK",
    "101f8 PHAISTOS DISC SIGN |FLUTE|GRATER|STRAINER|SMALL AXE|WAVY BAND|COMBINING OBLIQUE STROKE",
    "10280 LYCIAN LETTER |A|E|B|BH|G|D|I|W|Z|TH|J|K|Q|L|M|N|MM|NN|U|P|KK|R|S|T|TT|AN|EN|H|X",
    "102a0 CARIAN LETTER |A|P2",
    "102a2 CARIAN LETTER |D|L|UUU|R|LD|A2|Q|B|M|O|D2|T|SH|SH2|S|C-18|U|NN|X|N|TT2|P|SS|I|E|UUUU",
    "102bc CARIAN LETTER |K|K2|ND|UU|G|G2|ST|ST2|NG|II|C-39|TT|UUU2|RR|MB|MB2|MB3|MB4|LD2|E2|UUU3",
    "102e0 |COPTIC EPACT THOUSANDS MARK",
    "102e1 COPTIC EPACT DIGIT |ONE|TWO|THREE|FOUR|FIVE|SIX|SEVEN|EIGHT|NINE",
    "102ea COPTIC EPACT NUMBER |TEN|TWENTY|THIRTY|FORTY|FIFTY|SIXTY|SEVENTY",
    "102f1 COPTIC EPACT NUMBER |EIGHTY|NINETY|ONE HUNDRED|TWO HUNDRED|THREE HUNDRED|FOUR HUNDRED",
    "102f7 COPTIC EPACT NUMBER |FIVE HUNDRED|SIX HUNDRED|SEVEN HUNDRED|EIGHT HUNDRED|NINE HUNDRED",
    "10300 OLD ITALIC LETTER |A|BE|KE|DE|E|VE|ZE|HE|THE|I|KA|EL",
    "1030c OLD ITALIC LETTER |EM|EN|ESH|O|PE|SHE|KU|ER|ES|TE|U|EKS|PHE|KHE|EF|ERS|CHE|II|UU|ESS",
    "10320 OLD ITALIC NUMERAL |ONE|FIVE|TEN|FIFTY",
    "1032d OLD ITALIC LETTER |YE|NORTHERN TSE|SOUTHERN TSE",
    "10330 GOTHIC LETTER |AHSA|BAIRKAN|GIBA|DAGS|AIHVUS|QAIRTHRA",
    "10336 GOTHIC LETTER |IUJA|HAGL|THIUTH|EIS|KUSMA|LAGUS|MANNA|NAUTHS|JER|URUS|PAIRTHRA",
    "10341 GOTHIC LETTER |NINETY|RAIDA|SAUIL|TEIWS|WINJA|FAIHU|IGGWS|HWAIR|OTHAL|NINE HUNDRED",
    "10350 OLD PERMIC LETTER |AN|BUR|GAI|DOI|E|ZHOI|DZHOI",
    "10357 OLD PERMIC LETTER |ZATA|DZITA|I|KOKE|LEI|MENOE|NENOE|VOOI|PEEI|REI|SII|TAI|U|CHERY",
    "10365 OLD PERMIC LETTER |SHOOI|SHCHOOI|YRY|YERU|O|OO|EF|HA|TSIU|VER|YER|YERI|YAT|IE|YU|YA|IA",
    "10376 COMBINING OLD PERMIC LETTER |AN|DOI|ZATA|NENOE|SII",
    "10380 UGARITIC LETTER |ALPA|BETA|GAMLA|KHA|DELTA|HO|WO|ZETA|HOTA|TET|YOD|KAF|SHIN|LAMDA",
    "1038e UGARITIC LETTER |MEM|DHAL|NUN|ZU|SAMKA|AIN|PU|SADE|QOPA|RASHA|THANNA|GHAIN|TO|I|U|SSU",
    "1039f |UGARITIC WORD DIVIDER",
    "103a0 OLD PERSIAN SIGN |A|I|U|KA|KU|GA|GU|XA|CA|JA|JI|TA|TU|DA",
    "103ae OLD PERSIAN SIGN |DI|DU|THA|PA|BA|FA|NA|NU|MA|MI|MU|YA|VA|VI|RA|RU|LA|SA|ZA|SHA|SSA|HA",
    "103c8 OLD PERSIAN SIGN |AURAMAZDAA|AURAMAZDAA-2|AURAMAZDAAHA|XSHAAYATHIYA|DAHYAAUSH",
    "103cd OLD PERSIAN |SIGN DAHYAAUSH-2|SIGN BAGA|SIGN BUUMISH|WORD DIVIDER",
    "103d1 OLD PERSIAN NUMBER |ONE|TWO|TEN|TWENTY|HUNDRED",
    "10400 DESERET CAPITAL LETTER LONG |I|E|A|AH|O|OO",
    "10406 DESERET CAPITAL LETTER SHORT |I|E|A|AH|O|OO",
    "1040c DESERET CAPITAL LETTER |AY|OW|WU|YEE|H|PEE|BEE|TEE|DEE|CHEE|JEE",
    "10417 DESERET CAPITAL LETTER |KAY|GAY|EF|VEE|ETH|THEE|ES|ZEE|ESH|ZHEE|ER|EL|EM|EN|ENG|OI|EW",
    "10428 DESERET SMALL LETTER LONG |I|E|A|AH|O|OO",
    "1042e DESERET SMALL LETTER SHORT |I|E|A|AH|O|OO",
    "10434 DESERET SMALL LETTER |AY|OW|WU|YEE|H|PEE|BEE|TEE|DEE|CHEE|JEE",
    "1043f DESERET SMALL LETTER |KAY|GAY|EF|VEE|ETH|THEE|ES|ZEE|ESH|ZHEE|ER|EL|EM|EN|ENG|OI|EW",
    "10450 |SHAVIAN LETTER PEEP",
    "10451 SHAVIAN LETTER |TOT|KICK|FEE|THIGH|SO|SURE|CHURCH|YEA|HUNG|BIB|DEAD|GAG|VOW|THEY|ZOO",
    "10460 SHAVIAN LETTER |MEASURE|JUDGE|WOE|HA-HA|LOLL|MIME|IF|EGG|ASH|ADO|ON|WOOL|OUT|AH|ROAR",
    "1046f SHAVIAN LETTER |NUN|EAT|AGE|ICE|UP|OAK|OOZE|OIL|AWE|ARE|OR|AIR|ERR|ARRAY|EAR|IAN|YEW",
    "10480 OSMANYA LETTER |ALEF|BA|TA|JA|XA|KHA|DEEL|RA|SA|SHIIN",
    "1048a OSMANYA LETTER |DHA|CAYN|GA|FA|QAAF|KAAF|LAAN|MIIN|NUUN|WAW|HA|YA|A|E|I|O|U|AA|EE|OO",
    "104a0 OSMANYA DIGIT |ZERO|ONE|TWO|THREE|FOUR|FIVE|SIX|SEVEN|EIGHT|NINE",
    "104b0 OSAGE CAPITAL LETTER |A|AI",
    "104b2 OSAGE CAPITAL LETTER |AIN|AH|BRA|CHA|EHCHA|E|EIN|HA|HYA|I|KA|EHKA|KYA|LA|MA|NA|O|OIN",
    "104c4 OSAGE CAPITAL LETTER |PA|EHPA|SA|SHA|TA|EHTA|TSA|EHTSA|TSHA|DHA|U|WA|KHA|GHA|ZA|ZHA",
    "104d8 OSAGE SMALL LETTER |A|AI|AIN|AH|BRA|CHA|EHCHA|E|EIN|HA|HYA|I|KA|EHKA|KYA|LA|MA|NA|O",
    "104eb OSAGE SMALL LETTER |OIN|PA|EHPA|SA|SHA|TA|EHTA|TSA|EHTSA|TSHA|DHA|U|WA|KHA|GHA|ZA|ZHA",
    "10500 ELBASAN LETTER |A|BE|CE|CHE|DE|NDE|DHE|EI|E|FE|GE|GJE|HE|I|JE|KE|LE|LLE|ME",
    "10513 ELBASAN LETTER |NE|NA|NJE|O|PE|QE|RE|RRE|SE|SHE|TE|THE|U|VE|XE|Y|ZE|ZHE|GHE|GHAMMA|KHE",
    "10530 CAUCASIAN ALBANIAN LETTER |ALT|BET|GIM|DAT|EB|ZARL|EYN|ZHIL|TAS|CHA|YOWD|ZHA|IRB|SHA",
    "1053e CAUCASIAN ALBANIAN LETTER |LAN|INYA|XEYN|DYAN|CAR|JHOX|KAR|LYIT|HEYT|QAY|AOR|CHOY|CHI",
    "1054b CAUCASIAN ALBANIAN LETTER |CYAY|MAQ|QAR|NOWC|DZYAY|SHAK|JAYN|ON|TYAY|FAM|DZAY|CHAT|PEN",
    "10558 CAUCASIAN ALBANIAN LETTER |GHEYS|RAT|SEYK|VEYZ|TIWR|SHOY|IWN|CYAW|CAYN|YAYD|PIWR|KIW",
    "1056f |CAUCASIAN ALBANIAN CITATION MARK",
    "10570 VITHKUQI CAPITAL LETTER |A|BBE|BE|CE|CHE|DE|DHE|EI|E|FE|GA",
    "1057c VITHKUQI CAPITAL LETTER |HA|HHA|I|IJE|JE|KA|LA|LLA|ME|NE|NJE|O|PE|QA|RE",
    "1058c VITHKUQI CAPITAL LETTER |SE|SHE|TE|THE|U|VE|XE",
    "10594 VITHKUQI CAPITAL LETTER |Y|ZE",
    "10597 VITHKUQI SMALL LETTER |A|BBE|BE|CE|CHE|DE|DHE|EI|E|FE|GA",
    "105a3 VITHKUQI SMALL LETTER |HA|HHA|I|IJE|JE|KA|LA|LLA|ME|NE|NJE|O|PE|QA|RE",
    "105b3 VITHKUQI SMALL LETTER |SE|SHE|TE|THE|U|VE|XE",
    "105bb VITHKUQI SMALL LETTER |Y|ZE",
    "10600 LINEAR A SIGN |AB001|AB002|AB003|AB004|AB005|AB006|AB007|AB008|AB009",
    "10609 LINEAR A SIGN |AB010|AB011|AB013|AB016|AB017|AB020|AB021|AB021F|AB021M|AB022|AB022F",
    "10614 LINEAR A SIGN |AB022M|AB023|AB023M|AB024|AB026|AB027|AB028|A028B|AB029|AB030|AB031",
    "1061f LINEAR A SIGN |AB034|AB037|AB038|AB039|AB040|AB041|AB044|AB045|AB046|AB047|AB048|AB049",
    "1062b LINEAR A SIGN |AB050|AB051|AB053|AB054|AB055|AB056|AB057|AB058|AB059|AB060|AB061|AB065",
    "10637 LINEAR A SIGN |AB066|AB067|AB069|AB070|AB073|AB074|AB076|AB077|AB078|AB079|AB080|AB081",
    "10643 LINEAR A SIGN |AB082|AB085|AB086|AB087|A100-102|AB118|AB120|A120B|AB122|AB123|AB131A",
    "1064e LINEAR A SIGN |AB131B|A131C|AB164|AB171|AB180|AB188|AB191|A301|A302|A303|A304|A305",
    "1065a LINEAR A SIGN |A306|A307|A308|A309A|A309B|A309C|A310|A311|A312|A313A|A313B|A313C|A314",
    "10667 LINEAR A SIGN |A315|A316|A317|A318|A319|A320|A321|A322|A323|A324|A325|A326|A327|A328",
    "10675 LINEAR A SIGN |A329|A330|A331|A332|A333|A334|A335|A336|A337|A338|A339|A340|A341|A342",
    "10683 LINEAR A SIGN |A343|A344|A345|A346|A347|A348|A349|A350|A351|A352|A353|A354|A355|A356",
    "10691 LINEAR A SIGN |A357|A358|A359|A360|A361|A362|A363|A364|A365|A366|A367|A368|A369|A370",
    "1069f LINEAR A SIGN |A371|A400-VAS|A401-VAS|A402-VAS|A403-VAS|A404-VAS|A405-VAS|A406-VAS",
    "106a7 LINEAR A SIGN |A407-VAS|A408-VAS|A409-VAS|A410-VAS|A411-VAS|A412-VAS|A413-VAS|A414-VAS",
    "106af LINEAR A SIGN |A415-VAS|A416-VAS|A417-VAS|A418-VAS|A501|A502|A503|A504|A505|A506",
    "106b9 LINEAR A SIGN |A508|A509|A510|A511|A512|A513|A515|A516|A520|A521|A523|A524|A525|A526",
    "106c7 LINEAR A SIGN |A527|A528|A529|A530|A531|A532|A534|A535|A536|A537|A538|A539|A540|A541",
    "106d5 LINEAR A SIGN |A542|A545|A547|A548|A549|A550|A551|A552|A553|A554|A555|A556|A557|A559",
    "106e3 LINEAR A SIGN |A563|A564|A565|A566|A568|A569|A570|A571|A572|A573|A574|A575|A576|A577",
    "106f1 LINEAR A SIGN |A578|A579|A580|A581|A582|A583|A584|A585|A586|A587|A588|A589|A591|A592",
    "106ff LINEAR A SIGN |A594|A595|A596|A598|A600|A601|A602|A603|A604|A606|A608|A609|A610|A611",
    "1070d LINEAR A SIGN |A612|A613|A614|A615|A616|A617|A618|A619|A620|A621|A622|A623|A624|A626",
    "1071b LINEAR A SIGN |A627|A628|A629|A634|A637|A638|A640|A642|A643|A644|A645|A646|A648|A649",
    "10729 LINEAR A SIGN |A651|A652|A653|A654|A655|A656|A657|A658|A659|A660|A661|A662|A663|A664",
    "10740 LINEAR A SIGN |A701 A|A702 B|A703 D|A704 E|A705 F|A706 H",
    "10746 LINEAR A SIGN |A707 J|A708 K|A709 L|A709-2 L2|A709-3 L3|A709-4 L4|A709-6 L6|A710 W",
    "1074e LINEAR A SIGN |A711 X|A712 Y|A713 OMEGA|A714 ABB|A715 BB|A717 DD|A726 EYYY|A732 JE",
    "10760 LINEAR A SIGN |A800|A801|A802|A803|A804|A805|A806|A807",
    "10780 |MODIFIER LETTER SMALL CAPITAL AA",
    "10781 MODIFIER LETTER SUPERSCRIPT |TRIANGULAR COLON|HALF TRIANGULAR COLON",
    "10783 MODIFIER LETTER SMALL |AE|CAPITAL B|B WITH HOOK",
    "10787 MODIFIER LETTER SMALL DZ |DIGRAPH|DIGRAPH WITH RETROFLEX HOOK|DIGRAPH WITH CURL",
    "1078a MODIFIER LETTER SMALL |DEZH DIGRAPH|D WITH TAIL|D WITH HOOK|D WITH HOOK AND TAIL",
    "1078e MODIFIER LETTER SMALL |REVERSED E|CLOSED REVERSED OPEN E|FENG DIGRAPH|RAMS HORN",
    "10792 MODIFIER LETTER SMALL |CAPITAL G|G WITH HOOK|CAPITAL G WITH HOOK|H WITH STROKE",
    "10796 MODIFIER LETTER SMALL |CAPITAL H|HENG WITH HOOK|DOTLESS J WITH STROKE AND HOOK",
    "10799 MODIFIER LETTER SMALL |LS DIGRAPH|LZ DIGRAPH|L WITH BELT|CAPITAL L WITH BELT",
    "1079d MODIFIER LETTER SMALL |L WITH RETROFLEX HOOK AND BELT|LEZH|LEZH WITH RETROFLEX HOOK",
    "107a0 MODIFIER LETTER SMALL TURNED |Y|Y WITH BELT",
    "107a2 MODIFIER LETTER SMALL |O WITH STROKE|CAPITAL OE|CLOSED OMEGA|Q",
    "107a6 MODIFIER LETTER SMALL TURNED R WITH LONG |LEG|LEG AND RETROFLEX HOOK",
    "107a8 MODIFIER LETTER SMALL |R WITH TAIL|R WITH FISHHOOK|CAPITAL R|TC DIGRAPH WITH CURL",
    "107ac MODIFIER LETTER SMALL TS |DIGRAPH|DIGRAPH WITH RETROFLEX HOOK",
    "107ae MODIFIER LETTER SMALL |TESH DIGRAPH|T WITH RETROFLEX HOOK|V WITH RIGHT HOOK",
    "107b2 |MODIFIER LETTER SMALL CAPITAL Y",
    "107b3 MODIFIER LETTER |GLOTTAL STOP WITH STROKE|REVERSED GLOTTAL STOP WITH STROKE",
    "107b5 MODIFIER LETTER |BILABIAL CLICK|DENTAL CLICK|LATERAL CLICK",
    "107b8 MODIFIER LETTER |ALVEOLAR CLICK|RETROFLEX CLICK WITH RETROFLEX HOOK|SMALL S WITH CURL",
    "10800 CYPRIOT SYLLABLE |A|E|I|O|U|JA",
    "10808 |CYPRIOT SYLLABLE JO",
    "1080a CYPRIOT SYLLABLE |KA|KE|KI|KO|KU|LA|LE|LI|LO|LU|MA|ME|MI|MO|MU|NA|NE|NI|NO|NU|PA",
    "1081f CYPRIOT SYLLABLE |PE|PI|PO|PU|RA|RE|RI|RO|RU|SA|SE|SI|SO|SU|TA|TE|TI|TO|TU|WA|WE|WI|WO",
    "10837 CYPRIOT SYLLABLE |XA|XE",
    "1083c |CYPRIOT SYLLABLE ZA",
    "1083f |CYPRIOT SYLLABLE ZO",
    "10840 IMPERIAL ARAMAIC LETTER |ALEPH|BETH|GIMEL|DALETH|HE|WAW|ZAYIN|HETH|TETH|YODH",
    "1084a IMPERIAL ARAMAIC LETTER |KAPH|LAMEDH|MEM|NUN|SAMEKH|AYIN|PE|SADHE|QOPH|RESH|SHIN|TAW",
    "10857 IMPERIAL ARAMAIC |SECTION SIGN|NUMBER ONE",
    "10859 IMPERIAL ARAMAIC NUMBER |TWO|THREE|TEN|TWENTY|ONE HUNDRED|ONE THOUSAND|TEN THOUSAND",
    "10860 PALMYRENE LETTER |ALEPH|BETH|GIMEL|DALETH|HE|WAW|ZAYIN|HETH|TETH|YODH|KAPH",
    "1086b PALMYRENE LETTER |LAMEDH|MEM|FINAL NUN|NUN|SAMEKH|AYIN|PE|SADHE|QOPH|RESH|SHIN|TAW",
    "10877 PALMYRENE |LEFT-POINTING FLEURON|RIGHT-POINTING FLEURON",
    "10879 PALMYRENE NUMBER |ONE|TWO|THREE|FOUR|FIVE|TEN|TWENTY",
    "10880 |NABATAEAN LETTER FINAL ALEPH",
    "10881 NABATAEAN LETTER |ALEPH|FINAL BETH|BETH|GIMEL|DALETH|FINAL HE|HE|WAW|ZAYIN|HETH",
    "1088b NABATAEAN LETTER |TETH|FINAL YODH|YODH|FINAL KAPH|KAPH|FINAL LAMEDH|LAMEDH|FINAL MEM",
    "10893 NABATAEAN LETTER |MEM|FINAL NUN|NUN|SAMEKH|AYIN|PE|SADHE|QOPH|RESH|FINAL SHIN|SHIN|TAW",
    "108a7 NABATAEAN |NUMBER ONE|NUMBER TWO|NUMBER THREE|NUMBER FOUR|CRUCIFORM NUMBER FOUR",
    "108ac NABATAEAN NUMBER |FIVE|TEN|TWENTY|ONE HUNDRED",
    "108e0 HATRAN LETTER |ALEPH|BETH|GIMEL|DALETH-RESH",
    "108e4 HATRAN LETTER |HE|WAW|ZAYN|HETH|TETH|YODH|KAPH|LAMEDH|MEM|NUN|SAMEKH|AYN|PE|SADHE|QOPH",
    "108f4 HATRAN LETTER |SHIN|TAW",
    "108fb HATRAN NUMBER |ONE|FIVE|TEN|TWENTY|ONE HUNDRED",
    "10900 PHOENICIAN LETTER |ALF|BET|GAML|DELT|HE|WAU",
    "10906 PHOENICIAN LETTER |ZAI|HET|TET|YOD|KAF|LAMD|MEM|NUN|SEMK|AIN|PE|SADE|QOF|ROSH|SHIN|TAU",
    "10916 PHOENICIAN NUMBER |ONE|TEN|TWENTY|ONE HUNDRED|TWO|THREE",
    "1091f |PHOENICIAN WORD SEPARATOR",
    "10920 LYDIAN LETTER |A|B|G|D|E|V|I|Y|K|L|M|N|O|R|SS|T|U|F|Q|S|TT|AN|EN|LY|NN|C",
    "1093f |LYDIAN TRIANGULAR MARK",
    "10980 MEROITIC HIEROGLYPHIC LETTER |A|E|I|O|YA|WA|BA|BA-2|PA|MA|NA|NA-2|NE|NE-2|RA",
    "1098f MEROITIC HIEROGLYPHIC LETTER |RA-2|LA|KHA|HHA|SA|SA-2|SE|KA|QA|TA|TA-2|TE|TE-2|TO|DA",
    "1099e MEROITIC HIEROGLYPHIC SYMBOL |VIDJ|VIDJ-2",
    "109a0 MEROITIC CURSIVE LETTER |A|E|I|O|YA|WA|BA",
    "109a7 MEROITIC CURSIVE LETTER |PA|MA|NA|NE|RA|LA|KHA|HHA|SA|ARCHAIC SA|SE|KA|QA|TA|TE|TO|DA",
    "109bc MEROITIC CURSIVE |FRACTION ELEVEN TWELFTHS|FRACTION ONE HALF|LOGOGRAM RMT|LOGOGRAM IMN",
    "109c0 MEROITIC CURSIVE NUMBER |ONE|TWO|THREE|FOUR|FIVE|SIX",
    "109c6 MEROITIC CURSIVE NUMBER |SEVEN|EIGHT|NINE|TEN|TWENTY|THIRTY|FORTY|FIFTY|SIXTY|SEVENTY",
    "109d2 MEROITIC CURSIVE NUMBER |ONE HUNDRED|TWO HUNDRED|THREE HUNDRED",
    "109d5 MEROITIC CURSIVE NUMBER |FOUR HUNDRED|FIVE HUNDRED|SIX HUNDRED|SEVEN HUNDRED",
    "109d9 MEROITIC CURSIVE NUMBER |EIGHT HUNDRED|NINE HUNDRED|ONE THOUSAND|TWO THOUSAND",
    "109dd MEROITIC CURSIVE NUMBER |THREE THOUSAND|FOUR THOUSAND|FIVE THOUSAND|SIX THOUSAND",
    "109e1 MEROITIC CURSIVE NUMBER |SEVEN THOUSAND|EIGHT THOUSAND|NINE THOUSAND|TEN THOUSAND",
    "109e5 MEROITIC CURSIVE NUMBER |TWENTY THOUSAND|THIRTY THOUSAND|FORTY THOUSAND|FIFTY THOUSAND",
    "109e9 MEROITIC CURSIVE NUMBER |SIXTY THOUSAND|SEVENTY THOUSAND|EIGHTY THOUSAND",
    "109ec MEROITIC CURSIVE NUMBER |NINETY THOUSAND|ONE HUNDRED THOUSAND|TWO HUNDRED THOUSAND",
    "109ef MEROITIC CURSIVE NUMBER |THREE HUNDRED THOUSAND|FOUR HUNDRED THOUSAND",
    "109f1 MEROITIC CURSIVE NUMBER |FIVE HUNDRED THOUSAND|SIX HUNDRED THOUSAND",
    "109f3 MEROITIC CURSIVE NUMBER |SEVEN HUNDRED THOUSAND|EIGHT HUNDRED THOUSAND",
    "109f5 MEROITIC CURSIVE |NUMBER NINE HUNDRED THOUSAND|FRACTION ONE TWELFTH",
    "109f7 MEROITIC CURSIVE FRACTION |TWO TWELFTHS|THREE TWELFTHS|FOUR TWELFTHS|FIVE TWELFTHS",
    "109fb MEROITIC CURSIVE FRACTION |SIX TWELFTHS|SEVEN TWELFTHS|EIGHT TWELFTHS|NINE TWELFTHS",
    "109ff |MEROITIC CURSIVE FRACTION TEN TWELFTHS|KHAROSHTHI LETTER A",
    "10a01 KHAROSHTHI VOWEL SIGN |I|U|VOCALIC R",
    "10a05 KHAROSHTHI VOWEL SIGN |E|O",
    "10a0c KHAROSHTHI |VOWEL LENGTH MARK|SIGN DOUBLE RING BELOW|SIGN ANUSVARA|SIGN VISARGA",
    "10a10 KHAROSHTHI LETTER |KA|KHA|GA|GHA",
    "10a15 KHAROSHTHI LETTER |CA|CHA|JA",
    "10a19 KHAROSHTHI LETTER |NYA|TTA|TTHA|DDA|DDHA|NNA|TA|THA|DA|DHA",
    "10a23 KHAROSHTHI LETTER |NA|PA|PHA|BA|BHA|MA|YA|RA|LA|VA|SHA|SSA|SA|ZA|HA|KKA|TTTHA|TTTA|VHA",
    "10a38 KHAROSHTHI SIGN |BAR ABOVE|CAUDA|DOT BELOW",
    "10a3f KHAROSHTHI |VIRAMA|DIGIT ONE|DIGIT TWO|DIGIT THREE|DIGIT FOUR|NUMBER TEN",
    "10a45 KHAROSHTHI |NUMBER TWENTY|NUMBER ONE HUNDRED|NUMBER ONE THOUSAND|FRACTION ONE HALF",
    "10a50 KHAROSHTHI PUNCTUATION |DOT|SMALL CIRCLE",
    "10a52 KHAROSHTHI PUNCTUATION |CIRCLE|CRESCENT BAR|MANGALAM|LOTUS|DANDA|DOUBLE DANDA|LINES",
    "10a60 OLD SOUTH ARABIAN LETTER |HE|LAMEDH|HETH|MEM|QOPH|WAW|SHIN",
    "10a67 OLD SOUTH ARABIAN LETTER |RESH|BETH|TAW|SAT|KAPH|NUN|KHETH|SADHE|SAMEKH|FE|ALEF|AYN",
    "10a73 OLD SOUTH ARABIAN LETTER |DHADHE|GIMEL|DALETH|GHAYN|TETH|ZAYN|DHALETH|YODH|THAW|THETH",
    "10a7d OLD SOUTH ARABIAN |NUMBER ONE|NUMBER FIFTY|NUMERIC INDICATOR",
    "10a80 OLD NORTH ARABIAN LETTER |HEH|LAM|HAH|MEEM|QAF|WAW|ES-2|REH|BEH|TEH|ES-1|KAF|NOON|KHAH",
    "10a8e OLD NORTH ARABIAN LETTER |SAD|ES-3|FEH|ALEF|AIN|DAD|GEEM|DAL|GHAIN|TAH|ZAIN|THAL|YEH",
    "10a9b OLD NORTH ARABIAN |LETTER THEH|LETTER ZAH|NUMBER ONE|NUMBER TEN|NUMBER TWENTY",
    "10ac0 MANICHAEAN LETTER |ALEPH|BETH|BHETH|GIMEL|GHIMEL|DALETH|HE|WAW",
    "10ac8 MANICHAEAN |SIGN UD|LETTER ZAYIN|LETTER ZHAYIN|LETTER JAYIN|LETTER JHAYIN",
    "10acd MANICHAEAN LETTER |HETH|TETH|YODH|KAPH|XAPH|KHAPH|LAMEDH|DHAMEDH|THAMEDH|MEM|NUN",
    "10ad8 MANICHAEAN LETTER |SAMEKH|AYIN|AAYIN|PE|FE|SADHE|QOPH|XOPH|QHOPH|RESH|SHIN|SSHIN|TAW",
    "10ae5 MANICHAEAN ABBREVIATION MARK |ABOVE|BELOW",
    "10aeb MANICHAEAN NUMBER |ONE|FIVE|TEN|TWENTY|ONE HUNDRED",
    "10af0 MANICHAEAN PUNCTUATION |STAR|FLEURON",
    "10af2 MANICHAEAN PUNCTUATION |DOUBLE DOT WITHIN DOT|DOT WITHIN DOT|DOT|TWO DOTS|LINE FILLER",
    "10b00 AVESTAN LETTER |A|AA|AO|AAO|AN|AAN|AE|AEE|E|EE|O|OO|I|II",
    "10b0e AVESTAN LETTER |U|UU|KE|XE|XYE|XVE|GE|GGE|GHE|CE|JE|TE|THE|DE|DHE|TTE|PE|FE|BE|BHE|NGE",
    "10b23 AVESTAN LETTER |NGYE|NGVE|NE|NYE|NNE|ME|HME|YYE|YE|VE|RE|LE|SE|ZE|SHE|ZHE|SHYE|SSHE|HE",
    "10b39 |AVESTAN ABBREVIATION MARK|TINY TWO DOTS OVER ONE DOT PUNCTUATION",
    "10b3b |SMALL TWO DOTS OVER ONE DOT PUNCTUATION|LARGE TWO DOTS OVER ONE DOT PUNCTUATION",
    "10b3d LARGE |ONE DOT OVER TWO DOTS PUNCTUATION|TWO RINGS OVER ONE RING PUNCTUATION",
    "10b3f |LARGE ONE RING OVER TWO RINGS PUNCTUATION|INSCRIPTIONAL PARTHIAN LETTER ALEPH",
    "10b41 INSCRIPTIONAL PARTHIAN LETTER |BETH|GIMEL|DALETH|HE|WAW|ZAYIN|HETH|TETH|YODH|KAPH",
    "10b4b INSCRIPTIONAL PARTHIAN LETTER |LAMEDH|MEM|NUN|SAMEKH|AYIN|PE|SADHE|QOPH|RESH|SHIN|TAW",
    "10b58 INSCRIPTIONAL PARTHIAN NUMBER |ONE|TWO|THREE|FOUR|TEN|TWENTY|ONE HUNDRED|ONE THOUSAND",
    "10b60 INSCRIPTIONAL PAHLAVI LETTER |ALEPH|BETH|GIMEL|DALETH|HE|WAW-AYIN-RESH|ZAYIN|HETH|TETH",
    "10b69 INSCRIPTIONAL PAHLAVI LETTER |YODH|KAPH|LAMEDH|MEM-QOPH|NUN|SAMEKH|PE|SADHE|SHIN|TAW",
    "10b78 INSCRIPTIONAL PAHLAVI NUMBER |ONE|TWO|THREE|FOUR|TEN|TWENTY|ONE HUNDRED|ONE THOUSAND",
    "10b80 PSALTER PAHLAVI LETTER |ALEPH|BETH|GIMEL|DALETH|HE|WAW-AYIN-RESH|ZAYIN",
    "10b87 PSALTER PAHLAVI LETTER |HETH|YODH|KAPH|LAMEDH|MEM-QOPH|NUN|SAMEKH|PE|SADHE|SHIN|TAW",
    "10b99 PSALTER PAHLAVI |SECTION MARK|TURNED SECTION MARK",
    "10b9b PSALTER PAHLAVI FOUR DOTS WITH |CROSS|DOT",
    "10ba9 PSALTER PAHLAVI NUMBER |ONE|TWO|THREE|FOUR|TEN|TWENTY|ONE HUNDRED",
    "10c00 OLD TURKIC LETTER |ORKHON A|YENISEI A|YENISEI AE|ORKHON I|YENISEI I|YENISEI E",
    "10c06 OLD TURKIC LETTER ORKHON |O|OE",
    "10c08 OLD TURKIC LETTER |YENISEI OE|ORKHON AB|YENISEI AB|ORKHON AEB|YENISEI AEB|ORKHON AG",
    "10c0e OLD TURKIC LETTER |YENISEI AG|ORKHON AEG|YENISEI AEG|ORKHON AD|YENISEI AD|ORKHON AED",
    "10c14 OLD TURKIC LETTER |ORKHON EZ|YENISEI EZ|ORKHON AY|YENISEI AY|ORKHON AEY|YENISEI AEY",
    "10c1a OLD TURKIC LETTER |ORKHON AEK|YENISEI AEK|ORKHON OEK|YENISEI OEK|ORKHON AL|YENISEI AL",
    "10c20 OLD TURKIC LETTER ORKHON |AEL|ELT|EM|AN|AEN",
    "10c25 OLD TURKIC LETTER |YENISEI AEN|ORKHON ENT|YENISEI ENT|ORKHON ENC|YENISEI ENC",
    "10c2a OLD TURKIC LETTER |ORKHON ENY|YENISEI ENY|YENISEI ANG|ORKHON ENG|YENISEI AENG",
    "10c2f OLD TURKIC LETTER ORKHON |EP|OP|IC|EC",
    "10c33 OLD TURKIC LETTER |YENISEI EC|ORKHON AQ|YENISEI AQ|ORKHON IQ",
    "10c37 OLD TURKIC LETTER |YENISEI IQ|ORKHON OQ|YENISEI OQ|ORKHON AR|YENISEI AR|ORKHON AER",
    "10c3d OLD TURKIC LETTER |ORKHON AS|ORKHON AES|ORKHON ASH|YENISEI ASH|ORKHON ESH|YENISEI ESH",
    "10c43 OLD TURKIC LETTER |ORKHON AT|YENISEI AT|ORKHON AET|YENISEI AET|ORKHON OT|ORKHON BASH",
    "10c80 OLD HUNGARIAN CAPITAL LETTER |A|AA|EB|AMB",
    "10c84 OLD HUNGARIAN CAPITAL LETTER |EC|ENC|ECS|ED|AND|E|CLOSE E|EE|EF|EG|EGY|EH|I|II|EJ|EK",
    "10c94 OLD HUNGARIAN CAPITAL LETTER |AK|UNK|EL|ELY|EM|EN|ENY|O|OO|NIKOLSBURG OE|RUDIMENTA OE",
    "10c9f OLD HUNGARIAN CAPITAL LETTER |OEE|EP|EMP|ER|SHORT ER|ES|ESZ|ET|ENT|ETY|ECH|U|UU",
    "10cac OLD HUNGARIAN CAPITAL LETTER |NIKOLSBURG UE|RUDIMENTA UE|EV|EZ|EZS|ENT-SHAPED SIGN|US",
    "10cc0 OLD HUNGARIAN SMALL LETTER |A|AA",
    "10cc2 OLD HUNGARIAN SMALL LETTER |EB|AMB|EC|ENC|ECS|ED|AND|E|CLOSE E|EE|EF|EG|EGY|EH|I|II|EJ",
    "10cd3 OLD HUNGARIAN SMALL LETTER |EK|AK|UNK|EL|ELY|EM|EN|ENY|O|OO|NIKOLSBURG OE|RUDIMENTA OE",
    "10cdf OLD HUNGARIAN SMALL LETTER |OEE|EP|EMP|ER|SHORT ER|ES|ESZ|ET|ENT|ETY|ECH|U",
    "10ceb OLD HUNGARIAN SMALL LETTER |UU|NIKOLSBURG UE|RUDIMENTA UE|EV|EZ|EZS|ENT-SHAPED SIGN|US",
    "10cfa OLD HUNGARIAN NUMBER |ONE|FIVE|TEN|FIFTY|ONE HUNDRED|ONE THOUSAND",
    "10d00 HANIFI ROHINGYA LETTER |A|BA|PA|TA|TTA|JA|CA|HA|KHA|FA|DA|DDA|RA|RRA",
    "10d0e HANIFI ROHINGYA LETTER |ZA|SA|SHA|KA|GA|LA|MA|NA|WA|KINNA WA|YA|KINNA YA|NGA|NYA|VA",
    "10d1d HANIFI ROHINGYA |VOWEL A|VOWEL I|VOWEL U|VOWEL E|VOWEL O|MARK SAKIN|MARK NA KHONNA",
    "10d24 HANIFI ROHINGYA SIGN |HARBAHAY|TAHALA|TANA|TASSI",
    "10d30 HANIFI ROHINGYA DIGIT |ZERO|ONE|TWO|THREE|FOUR|FIVE|SIX|SEVEN|EIGHT|NINE",
    "10e60 RUMI DIGIT |ONE|TWO|THREE|FOUR|FIVE|SIX|SEVEN|EIGHT|NINE",
    "10e69 RUMI NUMBER |TEN|TWENTY|THIRTY|FORTY|FIFTY|SIXTY",
    "10e6f RUMI NUMBER |SEVENTY|EIGHTY|NINETY|ONE HUNDRED|TWO HUNDRED|THREE HUNDRED|FOUR HUNDRED",
    "10e76 RUMI NUMBER |FIVE HUNDRED|SIX HUNDRED|SEVEN HUNDRED|EIGHT HUNDRED|NINE HUNDRED",
    "10e7b RUMI FRACTION |ONE HALF|ONE QUARTER|ONE THIRD|TWO THIRDS",
    "10e80 YEZIDI LETTER |ELIF|BE|PE|PHE|THE|SE|CIM|CHIM|CHHIM",
    "10e89 YEZIDI LETTER |HHA|XA|DAL|ZAL|RA|RHA|ZA|JA|SIN|SHIN|SAD|DAD|TA|ZE|EYN|XHEYN|FA|VA",
    "10e9b YEZIDI LETTER |VA ALTERNATE FORM|QAF|KAF|KHAF|GAF|LAM|MIM|NUN|UM|WAW|OW|EW|HAY|YOT|ET",
    "10eab YEZIDI |COMBINING HAMZA MARK|COMBINING MADDA MARK|HYPHENATION MARK",
    "10eb0 YEZIDI LETTER |LAM WITH DOT ABOVE|YOT WITH CIRCUMFLEX ABOVE",
    "10f00 OLD SOGDIAN LETTER |ALEPH|FINAL ALEPH|BETH|FINAL BETH|GIMEL",
    "10f05 OLD SOGDIAN LETTER |HE|FINAL HE|WAW|ZAYIN|HETH|YODH|KAPH|LAMEDH|MEM|NUN|FINAL NUN",
    "10f10 OLD SOGDIAN LETTER |FINAL NUN WITH VERTICAL TAIL|SAMEKH|AYIN|ALTERNATE AYIN|PE|SADHE",
    "10f16 OLD SOGDIAN LETTER FINAL |SADHE|SADHE WITH VERTICAL TAIL",
    "10f18 OLD SOGDIAN LETTER |RESH-AYIN-DALETH|SHIN|TAW|FINAL TAW|FINAL TAW WITH VERTICAL TAIL",
    "10f1d OLD SOGDIAN NUMBER |ONE|TWO|THREE|FOUR|FIVE|TEN|TWENTY|THIRTY|ONE HUNDRED",
    "10f26 OLD SOGDIAN |FRACTION ONE HALF|LIGATURE AYIN-DALETH",
    "10f30 SOGDIAN LETTER |ALEPH|BETH|GIMEL|HE|WAW|ZAYIN|HETH|YODH",
    "10f38 SOGDIAN LETTER |KAPH|LAMEDH|MEM|NUN|SAMEKH|AYIN|PE|SADHE|RESH-AYIN|SHIN|TAW|FETH|LESH",
    "10f45 SOGDIAN |INDEPENDENT SHIN|COMBINING DOT BELOW",
    "10f47 SOGDIAN COMBINING |TWO DOTS BELOW|DOT ABOVE|TWO DOTS ABOVE|CURVE ABOVE|CURVE BELOW",
    "10f4c SOGDIAN COMBINING |HOOK ABOVE|HOOK BELOW|LONG HOOK BELOW|RESH BELOW|STROKE BELOW",
    "10f51 SOGDIAN NUMBER |ONE|TEN|TWENTY|ONE HUNDRED",
    "10f55 SOGDIAN PUNCTUATION TWO VERTICAL |BARS|BARS WITH DOTS",
    "10f57 SOGDIAN PUNCTUATION |CIRCLE WITH DOT|TWO CIRCLES WITH DOTS|HALF CIRCLE WITH DOT",
    "10f70 OLD UYGHUR LETTER |ALEPH|BETH|GIMEL-HETH|WAW|ZAYIN|FINAL HETH",
    "10f76 OLD UYGHUR LETTER |YODH|KAPH|LAMEDH|MEM|NUN|SAMEKH|PE|SADHE|RESH|SHIN|TAW|LESH",
    "10f82 OLD UYGHUR COMBINING |DOT ABOVE|DOT BELOW|TWO DOTS ABOVE|TWO DOTS BELOW",
    "10f86 OLD UYGHUR PUNCTUATION |BAR|TWO BARS|TWO DOTS|FOUR DOTS",
    "10fb0 CHORASMIAN LETTER |ALEPH|SMALL ALEPH|BETH|GIMEL|DALETH|HE|WAW|CURLED WAW",
    "10fb8 CHORASMIAN LETTER |ZAYIN|HETH|YODH|KAPH|LAMEDH|MEM|NUN|SAMEKH|AYIN|PE|RESH|SHIN|TAW",
    "10fc5 CHORASMIAN NUMBER |ONE|TWO|THREE|FOUR|TEN|TWENTY|ONE HUNDRED",
    "10fe0 ELYMAIC LETTER |ALEPH|BETH|GIMEL|DALETH|HE|WAW|ZAYIN|HETH",
    "10fe8 ELYMAIC LETTER |TETH|YODH|KAPH|LAMEDH|MEM|NUN|SAMEKH|AYIN|PE|SADHE|QOPH|RESH|SHIN|TAW",
    "10ff6 |ELYMAIC LIGATURE ZAYIN-YODH"]

end Name
end Text
end DebugIndex
