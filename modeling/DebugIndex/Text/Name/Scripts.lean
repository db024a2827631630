/-!
# The names of the scripts from Lao to extended Greek

The names that Unicode 14 gives to the code points from U+0E00 to U+1FFE.  A row
begins with its first code point and what its names have in common; the endings
of the names of that point and those behind it follow, each after a bar.
-/

namespace DebugIndex
namespace Text
namespace Name

/-- The rows of the table, in ascending order. -/
def scriptsRows : List String :=
  ["e01 THAI CHARACTER |KO KAI|KHO KHAI|KHO KHUAT|KHO KHWAI|KHO KHON|KHO RAKHANG|NGO NGU",
    "e08 THAI CHARACTER CHO |CHAN|CHING|CHANG",
    "e0b THAI CHARACTER |SO SO|CHO CHOE|YO YING|DO CHADA|TO PATAK|THO THAN",
    "e11 THAI CHARACTER |THO NANGMONTHO|THO PHUTHAO|NO NEN|DO DEK|TO TAO|THO THUNG|THO THAHAN",
    "e18 THAI CHARACTER |THO THONG|NO NU|BO BAIMAI|PO PLA|PHO PHUNG|FO FA|PHO PHAN|FO FAN",
    "e20 THAI CHARACTER |PHO SAMPHAO|MO MA|YO YAK|RO RUA|RU|LO LING|LU|WO WAEN|SO SALA|SO RUSI",
    "e2a THAI CHARACTER |SO SUA|HO HIP|LO CHULA|O ANG|HO NOKHUK|PAIYANNOI|SARA A|MAI HAN-AKAT",
    "e32 THAI CHARACTER SARA |AA|AM|I|II|UE|UEE|U|UU",
    "e3a |THAI CHARACTER PHINTHU",
    "e3f |THAI CURRENCY SYMBOL BAHT",
    "e40 THAI CHARACTER SARA |E|AE|O|AI MAIMUAN|AI MAIMALAI",
    "e45 THAI CHARACTER |LAKKHANGYAO|MAIYAMOK|MAITAIKHU|MAI EK",
    "e49 THAI CHARACTER |MAI THO|MAI TRI|MAI CHATTAWA|THANTHAKHAT|NIKHAHIT|YAMAKKAN|FONGMAN",
    "e50 THAI DIGIT |ZERO|ONE|TWO|THREE|FOUR|FIVE|SIX|SEVEN|EIGHT|NINE",
    "e5a THAI CHARACTER |ANGKHANKHU|KHOMUT",
    "e81 LAO LETTER |KO|KHO SUNG",
    "e84 |LAO LETTER KHO TAM",
    "e86 LAO LETTER |PALI GHA|NGO|CO|PALI CHA|SO TAM",
    "e8c LAO LETTER |PALI JHA|NYO|PALI NYA|PALI TTA|PALI TTHA|PALI DDA|PALI DDHA|PALI NNA|DO|TO",
    "e96 LAO LETTER THO |SUNG|TAM",
    "e98 LAO LETTER |PALI DHA|NO|BO|PO|PHO SUNG|FO TAM|PHO TAM|FO SUNG|PALI BHA|MO|YO|LO LING",
    "ea5 |LAO LETTER LO LOOT",
    "ea7 LAO LETTER |WO|SANSKRIT SHA|SANSKRIT SSA|SO SUNG|HO SUNG|PALI LLA|O|HO TAM",
    "eaf |LAO ELLIPSIS",
    "eb0 LAO VOWEL SIGN |A|MAI KAN|AA|AM|I|II|Y|YY|U|UU",
    "eba LAO |SIGN PALI VIRAMA|VOWEL SIGN MAI KON|SEMIVOWEL SIGN LO|SEMIVOWEL SIGN NYO",
    "ec0 LAO VOWEL SIGN |E|EI|O|AY|AI",
    "ec6 |LAO KO LA",
    "ec8 LAO TONE MAI |EK|THO|TI|CATAWA",
    "ecc LAO |CANCELLATION MARK|NIGGAHITA",
    "ed0 LAO DIGIT |ZERO|ONE|TWO|THREE|FOUR|FIVE|SIX|SEVEN|EIGHT|NINE",
    "edc LAO |HO NO|HO MO|LETTER KHMU GO|LETTER KHMU NYO",
    "f00 |TIBETAN SYLLABLE OM",
    "f01 TIBETAN MARK GTER YIG MGO |TRUNCATED A|-UM RNAM BCAD MA|-UM GTER TSHEG MA",
    "f04 |TIBETAN MARK INITIAL YIG MGO MDUN MA",
    "f05 TIBETAN MARK |CLOSING YIG MGO SGAB MA|CARET YIG MGO PHUR SHAD MA|YIG MGO TSHEG SHAD MA",
    "f08 TIBETAN MARK |SBRUL SHAD|BSKUR YIG MGO|BKA- SHOG YIG MGO|INTERSYLLABIC TSHEG",
    "f0c TIBETAN MARK |DELIMITER TSHEG BSTAR|SHAD|NYIS SHAD|TSHEG SHAD|NYIS TSHEG SHAD",
    "f11 TIBETAN MARK |RIN CHEN SPUNGS SHAD|RGYA GRAM SHAD|CARET -DZUD RTAGS ME LONG CAN",
    "f14 TIBETAN |MARK GTER TSHEG|LOGOTYPE SIGN CHAD RTAGS|LOGOTYPE SIGN LHAG RTAGS",
    "f17 TIBETAN ASTROLOGICAL SIGN |SGRA GCAN -CHAR RTAGS|-KHYUD PA|SDONG TSHUGS",
    "f1a TIBETAN SIGN RDEL |DKAR GCIG|DKAR GNYIS|DKAR GSUM|NAG GCIG|NAG GNYIS|DKAR RDEL NAG",
    "f20 TIBETAN DIGIT |ZERO|ONE|TWO|THREE|FOUR|FIVE|SIX|SEVEN|EIGHT|NINE",
    "f2a TIBETAN DIGIT HALF |ONE|TWO|THREE|FOUR|FIVE|SIX|SEVEN|EIGHT|NINE|ZERO",
    "f34 TIBETAN MARK |BSDUS RTAGS|NGAS BZUNG NYI ZLA|CARET -DZUD RTAGS BZHI MIG CAN",
    "f37 TIBETAN MARK |NGAS BZUNG SGOR RTAGS|CHE MGO|TSA -PHRU|GUG RTAGS GYON|GUG RTAGS GYAS",
    "f3c TIBETAN |MARK ANG KHANG GYON|MARK ANG KHANG GYAS|SIGN YAR TSHES|SIGN MAR TSHES",
    "f40 TIBETAN LETTER |KA|KHA|GA|GHA|NGA|CA|CHA|JA",
    "f49 |TIBETAN LETTER NYA",
    "f4a TIBETAN LETTER |TTA|TTHA|DDA|DDHA|NNA|TA|THA|DA|DHA|NA|PA|PHA|BA|BHA|MA|TSA|TSHA|DZA",
    "f5c TIBETAN LETTER |DZHA|WA|ZHA|ZA|-A|YA|RA|LA|SHA|SSA|SA|HA|A|KSSA|FIXED-FORM RA|KKA|RRA",
    "f71 TIBETAN VOWEL SIGN |AA|I|II|U|UU|VOCALIC R|VOCALIC RR|VOCALIC L|VOCALIC LL|E|EE|O|OO",
    "f7e TIBETAN SIGN |RJES SU NGA RO|RNAM BCAD",
    "f80 TIBETAN VOWEL SIGN REVERSED |I|II",
    "f82 TIBETAN SIGN |NYI ZLA NAA DA|SNA LDAN",
    "f84 TIBETAN |MARK HALANTA|MARK PALUTA|SIGN LCI RTAGS|SIGN YANG RTAGS",
    "f88 TIBETAN SIGN |LCE TSA CAN|MCHU CAN|GRU CAN RGYINGS|GRU MED RGYINGS|INVERTED MCHU CAN",
    "f8d TIBETAN SUBJOINED SIGN |LCE TSA CAN|MCHU CAN|INVERTED MCHU CAN",
    "f90 TIBETAN SUBJOINED LETTER |KA|KHA|GA|GHA|NGA|CA|CHA|JA",
    "f99 TIBETAN SUBJOINED LETTER |NYA|TTA|TTHA|DDA|DDHA|NNA|TA|THA|DA|DHA|NA|PA|PHA|BA|BHA|MA",
    "fa9 TIBETAN SUBJOINED LETTER |TSA|TSHA|DZA|DZHA|WA|ZHA|ZA|-A|YA|RA|LA|SHA|SSA|SA|HA|A|KSSA",
    "fba TIBETAN SUBJOINED LETTER FIXED-FORM |WA|YA|RA",
    "fbe TIBETAN KU RU |KHA|KHA BZHI MIG CAN",
    "fc0 TIBETAN CANTILLATION SIGN |HEAVY BEAT|LIGHT BEAT|CANG TE-U|SBUB -CHAL",
    "fc4 TIBETAN SYMBOL |DRIL BU|RDO RJE|PADMA GDAN|RDO RJE RGYA GRAM|PHUR PA|NOR BU",
    "fca TIBETAN SYMBOL NOR BU |NYIS -KHYIL|GSUM -KHYIL|BZHI -KHYIL",
    "fce TIBETAN SIGN RDEL NAG |RDEL DKAR|GSUM",
    "fd0 TIBETAN MARK |BSKA- SHOG GI MGO RGYAN|MNYAM YIG GI MGO RGYAN|NYIS TSHEG",
    "fd3 TIBETAN MARK |INITIAL BRDA RNYING YIG MGO MDUN MA|CLOSING BRDA RNYING YIG MGO SGAB MA",
    "fd5 |RIGHT-FACING SVASTI SIGN|LEFT-FACING SVASTI SIGN",
    "fd7 |RIGHT-FACING SVASTI SIGN WITH DOTS|LEFT-FACING SVASTI SIGN WITH DOTS",
    "fd9 TIBETAN MARK |LEADING MCHAN RTAGS|TRAILING MCHAN RTAGS",
    "1000 MYANMAR LETTER |KA|KHA|GA",
    "1003 MYANMAR LETTER |GHA|NGA|CA|CHA|JA|JHA|NYA|NNYA|TTA|TTHA|DDA|DDHA|NNA|TA|THA|DA|DHA|NA",
    "1015 MYANMAR LETTER |PA|PHA|BA|BHA|MA|YA|RA|LA|WA|SA|HA|LLA|A|SHAN A|I|II|U|UU|E|MON E|O|AU",
    "102b MYANMAR VOWEL SIGN |TALL AA|AA|I|II|U|UU|E|AI|MON II|MON O|E ABOVE",
    "1036 MYANMAR SIGN |ANUSVARA|DOT BELOW|VISARGA|VIRAMA|ASAT",
    "103b MYANMAR CONSONANT SIGN MEDIAL |YA|RA|WA|HA",
    "103f |MYANMAR LETTER GREAT SA",
    "1040 MYANMAR DIGIT |ZERO|ONE|TWO|THREE|FOUR|FIVE|SIX|SEVEN|EIGHT|NINE",
    "104a MYANMAR SIGN |LITTLE SECTION|SECTION",
    "104c MYANMAR SYMBOL |LOCATIVE|COMPLETED|AFOREMENTIONED|GENITIVE",
    "1050 MYANMAR LETTER |SHA|SSA|VOCALIC R|VOCALIC RR|VOCALIC L|VOCALIC LL",
    "1056 MYANMAR VOWEL SIGN VOCALIC |R|RR|L|LL",
    "105a MYANMAR LETTER MON |NGA|JHA|BBA|BBE",
    "105e MYANMAR CONSONANT SIGN MON MEDIAL |NA|MA|LA",
    "1061 MYANMAR |LETTER SGAW KAREN SHA|VOWEL SIGN SGAW KAREN EU",
    "1063 MYANMAR TONE MARK SGAW KAREN |HATHI|KE PHO",
    "1065 MYANMAR LETTER WESTERN PWO KAREN |THA|PWA",
    "1067 MYANMAR VOWEL SIGN WESTERN PWO KAREN |EU|UE",
    "1069 MYANMAR SIGN WESTERN PWO KAREN |TONE-1|TONE-2|TONE-3|TONE-4|TONE-5",
    "106e MYANMAR LETTER EASTERN PWO KAREN |NNA|YWA|GHWA",
    "1071 MYANMAR VOWEL SIGN |GEBA KAREN I|KAYAH OE|KAYAH U|KAYAH EE",
    "1075 MYANMAR LETTER SHAN |KA|KHA|GA|CA|ZA|NYA|DA|NA|PHA|FA|BA|THA|HA",
    "1082 |MYANMAR CONSONANT SIGN SHAN MEDIAL WA",
    "1083 MYANMAR VOWEL SIGN SHAN |AA|E|E ABOVE|FINAL Y",
    "1087 MYANMAR SIGN SHAN |TONE-2|TONE-3|TONE-5|TONE-6",
    "108b MYANMAR SIGN SHAN COUNCIL |TONE-2|TONE-3|EMPHATIC TONE",
    "108e MYANMAR |LETTER RUMAI PALAUNG FA|SIGN RUMAI PALAUNG TONE-5",
    "1090 MYANMAR SHAN DIGIT |ZERO|ONE|TWO|THREE|FOUR|FIVE|SIX|SEVEN|EIGHT|NINE",
    "109a MYANMAR SIGN KHAMTI |TONE-1|TONE-3",
    "109c MYANMAR VOWEL SIGN AITON |A|AI",
    "109e MYANMAR SYMBOL SHAN |ONE|EXCLAMATION",
    "10a0 GEORGIAN CAPITAL LETTER |AN|BAN|GAN|DON|EN|VIN|ZEN|TAN",
    "10a8 GEORGIAN CAPITAL LETTER |IN|KAN|LAS|MAN|NAR|ON|PAR|ZHAR|RAE|SAN|TAR|UN|PHAR|KHAR|GHAN",
    "10b7 GEORGIAN CAPITAL LETTER |QAR|SHIN|CHIN|CAN|JIL|CIL|CHAR|XAN|JHAN|HAE|HE|HIE|WE|HAR|HOE",
    "10c7 |GEORGIAN CAPITAL LETTER YN",
    "10cd |GEORGIAN CAPITAL LETTER AEN",
    "10d0 GEORGIAN LETTER |AN|BAN|GAN|DON|EN|VIN|ZEN|TAN|IN|KAN|LAS|MAN",
    "10dc GEORGIAN LETTER |NAR|ON|PAR|ZHAR|RAE|SAN|TAR|UN|PHAR|KHAR|GHAN|QAR|SHIN|CHIN|CAN|JIL",
    "10ec GEORGIAN LETTER |CIL|CHAR|XAN|JHAN|HAE|HE|HIE|WE|HAR|HOE|FI|YN|ELIFI|TURNED GAN|AIN",
    "10fb |GEORGIAN PARAGRAPH SEPARATOR|MODIFIER LETTER GEORGIAN NAR",
    "10fd GEORGIAN LETTER |AEN|HARD SIGN|LABIAL SIGN",
    "1100 |HANGUL CHOSEONG KIYEOK",
    "1101 HANGUL CHOSEONG |SSANGKIYEOK|NIEUN|TIKEUT|SSANGTIKEUT|RIEUL|MIEUM|PIEUP|SSANGPIEUP",
    "1109 HANGUL CHOSEONG |SIOS|SSANGSIOS|IEUNG|CIEUC|SSANGCIEUC|CHIEUCH|KHIEUKH|THIEUTH",
    "1111 HANGUL CHOSEONG |PHIEUPH|HIEUH|NIEUN-KIYEOK|SSANGNIEUN|NIEUN-TIKEUT|NIEUN-PIEUP",
    "1117 HANGUL CHOSEONG |TIKEUT-KIYEOK|RIEUL-NIEUN|SSANGRIEUL|RIEUL-HIEUH|KAPYEOUNRIEUL",
    "111c HANGUL CHOSEONG |MIEUM-PIEUP|KAPYEOUNMIEUM|PIEUP-KIYEOK|PIEUP-NIEUN|PIEUP-TIKEUT",
    "1121 HANGUL CHOSEONG |PIEUP-SIOS|PIEUP-SIOS-KIYEOK|PIEUP-SIOS-TIKEUT|PIEUP-SIOS-PIEUP",
    "1125 HANGUL CHOSEONG |PIEUP-SSANGSIOS|PIEUP-SIOS-CIEUC|PIEUP-CIEUC|PIEUP-CHIEUCH",
    "1129 HANGUL CHOSEONG |PIEUP-THIEUTH|PIEUP-PHIEUPH|KAPYEOUNPIEUP|KAPYEOUNSSANGPIEUP",
    "112d HANGUL CHOSEONG |SIOS-KIYEOK|SIOS-NIEUN|SIOS-TIKEUT|SIOS-RIEUL|SIOS-MIEUM",
    "1132 HANGUL CHOSEONG |SIOS-PIEUP|SIOS-PIEUP-KIYEOK|SIOS-SSANGSIOS|SIOS-IEUNG|SIOS-CIEUC",
    "1137 HANGUL CHOSEONG |SIOS-CHIEUCH|SIOS-KHIEUKH|SIOS-THIEUTH|SIOS-PHIEUPH|SIOS-HIEUH",
    "113c HANGUL CHOSEONG |CHITUEUMSIOS|CHITUEUMSSANGSIOS|CEONGCHIEUMSIOS|CEONGCHIEUMSSANGSIOS",
    "1140 HANGUL CHOSEONG |PANSIOS|IEUNG-KIYEOK|IEUNG-TIKEUT|IEUNG-MIEUM|IEUNG-PIEUP",
    "1145 HANGUL CHOSEONG |IEUNG-SIOS|IEUNG-PANSIOS|SSANGIEUNG|IEUNG-CIEUC|IEUNG-CHIEUCH",
    "114a HANGUL CHOSEONG |IEUNG-THIEUTH|IEUNG-PHIEUPH|YESIEUNG|CIEUC-IEUNG|CHITUEUMCIEUC",
    "114f HANGUL CHOSEONG |CHITUEUMSSANGCIEUC|CEONGCHIEUMCIEUC|CEONGCHIEUMSSANGCIEUC",
    "1152 HANGUL CHOSEONG |CHIEUCH-KHIEUKH|CHIEUCH-HIEUH|CHITUEUMCHIEUCH|CEONGCHIEUMCHIEUCH",
    "1156 HANGUL CHOSEONG |PHIEUPH-PIEUP|KAPYEOUNPHIEUPH|SSANGHIEUH|YEORINHIEUH",
    "115a HANGUL CHOSEONG |KIYEOK-TIKEUT|NIEUN-SIOS|NIEUN-CIEUC|NIEUN-HIEUH|TIKEUT-RIEUL|FILLER",
    "1160 HANGUL JUNGSEONG |FILLER|A|AE|YA",
    "1164 HANGUL JUNGSEONG |YAE|EO|E|YEO|YE|O|WA|WAE|OE|YO|U|WEO|WE|WI|YU|EU|YI|I|A-O|A-U|YA-O",
    "1179 HANGUL JUNGSEONG |YA-YO|EO-O|EO-U|EO-EU|YEO-O|YEO-U|O-EO|O-E|O-YE|O-O|O-U|YO-YA|YO-YAE",
    "1186 HANGUL JUNGSEONG |YO-YEO|YO-O|YO-I|U-A|U-AE|U-EO-EU|U-YE|U-U|YU-A|YU-EO|YU-E|YU-YEO",
    "1192 HANGUL JUNGSEONG |YU-YE|YU-U|YU-I|EU-U|EU-EU|YI-U|I-A|I-YA|I-O|I-U|I-EU|I-ARAEA|ARAEA",
    "119f HANGUL JUNGSEONG |ARAEA-EO|ARAEA-U|ARAEA-I|SSANGARAEA|A-EU|YA-U|YEO-YA|O-YA|O-YAE",
    "11a8 HANGUL JONGSEONG |KIYEOK|SSANGKIYEOK|KIYEOK-SIOS|NIEUN|NIEUN-CIEUC|NIEUN-HIEUH",
    "11ae HANGUL JONGSEONG |TIKEUT|RIEUL|RIEUL-KIYEOK|RIEUL-MIEUM|RIEUL-PIEUP|RIEUL-SIOS",
    "11b4 HANGUL JONGSEONG |RIEUL-THIEUTH|RIEUL-PHIEUPH|RIEUL-HIEUH|MIEUM|PIEUP|PIEUP-SIOS",
    "11ba HANGUL JONGSEONG |SIOS|SSANGSIOS|IEUNG|CIEUC|CHIEUCH|KHIEUKH|THIEUTH|PHIEUPH",
    "11c2 HANGUL JONGSEONG |HIEUH|KIYEOK-RIEUL|KIYEOK-SIOS-KIYEOK|NIEUN-KIYEOK|NIEUN-TIKEUT",
    "11c7 HANGUL JONGSEONG |NIEUN-SIOS|NIEUN-PANSIOS|NIEUN-THIEUTH|TIKEUT-KIYEOK|TIKEUT-RIEUL",
    "11cc HANGUL JONGSEONG |RIEUL-KIYEOK-SIOS|RIEUL-NIEUN|RIEUL-TIKEUT|RIEUL-TIKEUT-HIEUH",
    "11d0 HANGUL JONGSEONG |SSANGRIEUL|RIEUL-MIEUM-KIYEOK|RIEUL-MIEUM-SIOS|RIEUL-PIEUP-SIOS",
    "11d4 HANGUL JONGSEONG |RIEUL-PIEUP-HIEUH|RIEUL-KAPYEOUNPIEUP|RIEUL-SSANGSIOS|RIEUL-PANSIOS",
    "11d8 HANGUL JONGSEONG |RIEUL-KHIEUKH|RIEUL-YEORINHIEUH|MIEUM-KIYEOK|MIEUM-RIEUL|MIEUM-PIEUP",
    "11dd HANGUL JONGSEONG |MIEUM-SIOS|MIEUM-SSANGSIOS|MIEUM-PANSIOS|MIEUM-CHIEUCH|MIEUM-HIEUH",
    "11e2 HANGUL JONGSEONG |KAPYEOUNMIEUM|PIEUP-RIEUL|PIEUP-PHIEUPH|PIEUP-HIEUH|KAPYEOUNPIEUP",
    "11e7 HANGUL JONGSEONG |SIOS-KIYEOK|SIOS-TIKEUT|SIOS-RIEUL|SIOS-PIEUP|PANSIOS|IEUNG-KIYEOK",
    "11ed HANGUL JONGSEONG |IEUNG-SSANGKIYEOK|SSANGIEUNG|IEUNG-KHIEUKH|YESIEUNG|YESIEUNG-SIOS",
    "11f2 HANGUL JONGSEONG |YESIEUNG-PANSIOS|PHIEUPH-PIEUP|KAPYEOUNPHIEUPH|HIEUH-NIEUN",
    "11f6 HANGUL JONGSEONG |HIEUH-RIEUL|HIEUH-MIEUM|HIEUH-PIEUP|YEORINHIEUH|KIYEOK-NIEUN",
    "11fb HANGUL JONGSEONG |KIYEOK-PIEUP|KIYEOK-CHIEUCH|KIYEOK-KHIEUKH|KIYEOK-HIEUH|SSANGNIEUN",
    "1200 |ETHIOPIC SYLLABLE HA",
    "1201 ETHIOPIC SYLLABLE |HU|HI|HAA|HEE|HE|HO|HOA|LA|LU|LI|LAA|LEE|LE|LO|LWA|HHA|HHU|HHI|HHAA",
    "1214 ETHIOPIC SYLLABLE |HHEE|HHE|HHO|HHWA|MA|MU|MI|MAA|MEE|ME|MO|MWA|SZA|SZU|SZI|SZAA|SZEE",
    "1225 ETHIOPIC SYLLABLE |SZE|SZO|SZWA|RA|RU|RI|RAA|REE|RE|RO|RWA|SA|SU|SI|SAA|SEE|SE|SO|SWA",
    "1238 ETHIOPIC SYLLABLE |SHA|SHU|SHI|SHAA|SHEE|SHE|SHO|SHWA|QA|QU|QI|QAA|QEE|QE|QO|QOA|QWA",
    "124a ETHIOPIC SYLLABLE |QWI|QWAA|QWEE|QWE",
    "1250 ETHIOPIC SYLLABLE |QHA|QHU|QHI|QHAA|QHEE|QHE|QHO",
    "1258 |ETHIOPIC SYLLABLE QHWA",
    "125a ETHIOPIC SYLLABLE |QHWI|QHWAA|QHWEE|QHWE",
    "1260 |ETHIOPIC SYLLABLE BA",
    "1261 ETHIOPIC SYLLABLE |BU|BI|BAA|BEE|BE|BO|BWA|VA|VU|VI|VAA|VEE|VE|VO|VWA|TA|TU|TI|TAA|TEE",
    "1275 ETHIOPIC SYLLABLE |TE|TO|TWA|CA|CU|CI|CAA|CEE|CE|CO|CWA|XA|XU|XI|XAA|XEE|XE|XO|XOA|XWA",
    "128a ETHIOPIC SYLLABLE |XWI|XWAA|XWEE|XWE",
    "1290 ETHIOPIC SYLLABLE |NA|NU|NI|NAA|NEE|NE|NO|NWA|NYA|NYU|NYI|NYAA|NYEE|NYE|NYO|NYWA",
    "12a0 ETHIOPIC SYLLABLE GLOTTAL |A|U|I|AA|EE|E|O|WA",
    "12a8 ETHIOPIC SYLLABLE |KA|KU|KI|KAA|KEE|KE|KO|KOA|KWA",
    "12b2 ETHIOPIC SYLLABLE |KWI|KWAA|KWEE|KWE",
    "12b8 ETHIOPIC SYLLABLE |KXA|KXU|KXI|KXAA|KXEE|KXE|KXO",
    "12c0 |ETHIOPIC SYLLABLE KXWA",
    "12c2 ETHIOPIC SYLLABLE |KXWI|KXWAA|KXWEE|KXWE",
    "12c8 ETHIOPIC SYLLABLE |WA|WU|WI|WAA|WEE|WE|WO|WOA",
    "12d0 ETHIOPIC SYLLABLE PHARYNGEAL |A|U|I|AA|EE|E|O",
    "12d8 ETHIOPIC SYLLABLE |ZA|ZU|ZI",
    "12db ETHIOPIC SYLLABLE |ZAA|ZEE|ZE|ZO|ZWA|ZHA|ZHU|ZHI|ZHAA|ZHEE|ZHE|ZHO|ZHWA|YA|YU|YI|YAA",
    "12ec ETHIOPIC SYLLABLE |YEE|YE|YO|YOA|DA|DU|DI|DAA|DEE|DE|DO|DWA|DDA|DDU|DDI|DDAA|DDEE|DDE",
    "12fe ETHIOPIC SYLLABLE |DDO|DDWA|JA|JU|JI|JAA|JEE|JE|JO|JWA|GA|GU|GI|GAA|GEE|GE|GO|GOA|GWA",
    "1312 ETHIOPIC SYLLABLE |GWI|GWAA|GWEE|GWE",
    "1318 ETHIOPIC SYLLABLE |GGA|GGU|GGI",
    "131b ETHIOPIC SYLLABLE |GGAA|GGEE|GGE|GGO|GGWAA|THA|THU|THI|THAA|THEE|THE|THO|THWA|CHA|CHU",
    "132a ETHIOPIC SYLLABLE |CHI|CHAA|CHEE|CHE|CHO|CHWA|PHA|PHU|PHI|PHAA|PHEE|PHE|PHO|PHWA|TSA",
    "1339 ETHIOPIC SYLLABLE |TSU|TSI|TSAA|TSEE|TSE|TSO|TSWA|TZA|TZU|TZI|TZAA|TZEE|TZE|TZO|TZOA",
    "1348 ETHIOPIC SYLLABLE |FA|FU|FI|FAA|FEE|FE|FO|FWA|PA|PU|PI|PAA|PEE|PE|PO|PWA|RYA|MYA|FYA",
    "135d ETHIOPIC COMBINING |GEMINATION AND VOWEL LENGTH MARK|VOWEL LENGTH MARK|GEMINATION MARK",
    "1360 ETHIOPIC |SECTION MARK|WORDSPACE|FULL STOP",
    "1363 ETHIOPIC |COMMA|SEMICOLON|COLON|PREFACE COLON|QUESTION MARK|PARAGRAPH SEPARATOR",
    "1369 ETHIOPIC DIGIT |ONE|TWO|THREE|FOUR|FIVE|SIX|SEVEN|EIGHT|NINE",
    "1372 ETHIOPIC NUMBER |TEN|TWENTY",
    "1374 ETHIOPIC NUMBER |THIRTY|FORTY|FIFTY|SIXTY|SEVENTY|EIGHTY|NINETY|HUNDRED|TEN THOUSAND",
    "1380 ETHIOPIC SYLLABLE |SEBATBEIT MWA|MWI|MWEE|MWE|SEBATBEIT BWA",
    "1385 ETHIOPIC SYLLABLE |BWI|BWEE|BWE|SEBATBEIT FWA|FWI|FWEE|FWE|SEBATBEIT PWA|PWI|PWEE|PWE",
    "1390 ETHIOPIC TONAL MARK |YIZET|DERET",
    "1392 ETHIOPIC TONAL MARK |RIKRIK|SHORT RIKRIK|DIFAT|KENAT|CHIRET|HIDET|DERET-HIDET|KURT",
    "13a0 CHEROKEE LETTER |A|E|I|O|U|V|GA|KA|GE|GI|GO|GU|GV|HA|HE|HI|HO|HU|HV|LA|LE|LI|LO|LU|LV",
    "13b9 CHEROKEE LETTER |MA|ME|MI|MO|MU|NA|HNA|NAH|NE|NI|NO|NU|NV|QUA|QUE|QUI|QUO|QUU|QUV|SA",
    "13cd CHEROKEE LETTER |S|SE|SI|SO|SU|SV|DA|TA|DE|TE|DI|TI|DO|DU|DV|DLA|TLA|TLE|TLI|TLO|TLU",
    "13e2 CHEROKEE LETTER |TLV|TSA|TSE|TSI|TSO|TSU|TSV|WA|WE|WI|WO|WU|WV|YA|YE|YI|YO|YU|YV|MV",
    "13f8 CHEROKEE SMALL LETTER |YE|YI|YO|YU|YV|MV",
    "1400 CANADIAN SYLLABICS |HYPHEN|E|AAI|I|II|O|OO|Y-CREE OO|CARRIER EE",
    "1409 CANADIAN SYLLABICS |CARRIER I|A|AA|WE|WEST-CREE WE|WI|WEST-CREE WI|WII|WEST-CREE WII",
    "1412 CANADIAN SYLLABICS |WO|WEST-CREE WO|WOO|WEST-CREE WOO|NASKAPI WOO|WA|WEST-CREE WA",
    "1419 CANADIAN SYLLABICS |WAA|WEST-CREE WAA|NASKAPI WAA|AI|Y-CREE W|GLOTTAL STOP|FINAL ACUTE",
    "1420 CANADIAN SYLLABICS FINAL |GRAVE|BOTTOM HALF RING|TOP HALF RING|RIGHT HALF RING|RING",
    "1425 CANADIAN SYLLABICS FINAL DOUBLE |ACUTE|SHORT VERTICAL STROKES",
    "1427 CANADIAN SYLLABICS FINAL |MIDDLE DOT|SHORT HORIZONTAL STROKE|PLUS|DOWN TACK",
    "142b CANADIAN SYLLABICS |EN|IN|ON|AN|PE|PAAI|PI|PII|PO|POO|Y-CREE POO",
    "1436 CANADIAN SYLLABICS |CARRIER HEE|CARRIER HI|PA|PAA|PWE|WEST-CREE PWE|PWI|WEST-CREE PWI",
    "143e CANADIAN SYLLABICS |PWII|WEST-CREE PWII|PWO|WEST-CREE PWO|PWOO|WEST-CREE PWOO",
    "1444 CANADIAN SYLLABICS |PWA|WEST-CREE PWA|PWAA|WEST-CREE PWAA|Y-CREE PWAA|P|WEST-CREE P",
    "144b CANADIAN SYLLABICS |CARRIER H|TE|TAAI|TI|TII|TO|TOO|Y-CREE TOO|CARRIER DEE|CARRIER DI",
    "1455 CANADIAN SYLLABICS |TA|TAA|TWE|WEST-CREE TWE|TWI|WEST-CREE TWI|TWII|WEST-CREE TWII",
    "145d CANADIAN SYLLABICS |TWO|WEST-CREE TWO|TWOO|WEST-CREE TWOO|TWA|WEST-CREE TWA",
    "1463 CANADIAN SYLLABICS |TWAA|WEST-CREE TWAA|NASKAPI TWAA|T|TTE|TTI|TTO|TTA|KE|KAAI|KI",
    "146e CANADIAN SYLLABICS |KII|KO|KOO|Y-CREE KOO|KA|KAA|KWE|WEST-CREE KWE|KWI|WEST-CREE KWI",
    "1478 CANADIAN SYLLABICS |KWII|WEST-CREE KWII|KWO|WEST-CREE KWO|KWOO|WEST-CREE KWOO",
    "147e CANADIAN SYLLABICS |KWA|WEST-CREE KWA|KWAA|WEST-CREE KWAA|NASKAPI KWAA|K|KW",
    "1485 CANADIAN SYLLABICS SOUTH-SLAVEY |KEH|KIH|KOH|KAH",
    "1489 CANADIAN SYLLABICS |CE|CAAI|CI|CII|CO|COO|Y-CREE COO|CA|CAA|CWE|WEST-CREE CWE",
    "1494 CANADIAN SYLLABICS |CWI|WEST-CREE CWI|CWII|WEST-CREE CWII|CWO|WEST-CREE CWO",
    "149a CANADIAN SYLLABICS |CWOO|WEST-CREE CWOO|CWA|WEST-CREE CWA|CWAA|WEST-CREE CWAA",
    "14a0 CANADIAN SYLLABICS |NASKAPI CWAA|C|SAYISI TH|ME|MAAI|MI|MII|MO|MOO|Y-CREE MOO",
    "14aa CANADIAN SYLLABICS |MA|MAA|MWE|WEST-CREE MWE|MWI|WEST-CREE MWI|MWII|WEST-CREE MWII",
    "14b2 CANADIAN SYLLABICS |MWO|WEST-CREE MWO|MWOO|WEST-CREE MWOO|MWA|WEST-CREE MWA",
    "14b8 CANADIAN SYLLABICS |MWAA|WEST-CREE MWAA|NASKAPI MWAA|M|WEST-CREE M|MH|ATHAPASCAN M",
    "14bf CANADIAN SYLLABICS |SAYISI M|NE|NAAI|NI|NII|NO|NOO|Y-CREE NOO|NA|NAA|NWE|WEST-CREE NWE",
    "14cb CANADIAN SYLLABICS |NWA|WEST-CREE NWA|NWAA|WEST-CREE NWAA|NASKAPI NWAA|N|CARRIER NG",
    "14d2 CANADIAN SYLLABICS |NH|LE|LAAI|LI|LII|LO|LOO|Y-CREE LOO|LA|LAA|LWE|WEST-CREE LWE",
    "14de CANADIAN SYLLABICS |LWI|WEST-CREE LWI|LWII|WEST-CREE LWII|LWO|WEST-CREE LWO|LWOO",
    "14e5 CANADIAN SYLLABICS |WEST-CREE LWOO|LWA|WEST-CREE LWA|LWAA|WEST-CREE LWAA|L|WEST-CREE L",
    "14ec CANADIAN SYLLABICS |MEDIAL L|SE|SAAI|SI|SII|SO|SOO|Y-CREE SOO|SA|SAA|SWE|WEST-CREE SWE",
    "14f8 CANADIAN SYLLABICS |SWI|WEST-CREE SWI|SWII|WEST-CREE SWII|SWO|WEST-CREE SWO",
    "14fe CANADIAN SYLLABICS |SWOO|WEST-CREE SWOO|SWA|WEST-CREE SWA|SWAA|WEST-CREE SWAA",
    "1504 CANADIAN SYLLABICS |NASKAPI SWAA|S|ATHAPASCAN S|SW|BLACKFOOT S|MOOSE-CREE SK",
    "150a CANADIAN SYLLABICS NASKAPI |SKW|S-W|SPWA|STWA|SKWA|SCWA",
    "1510 |CANADIAN SYLLABICS SHE",
    "1511 CANADIAN SYLLABICS |SHI|SHII|SHO|SHOO|SHA|SHAA|SHWE|WEST-CREE SHWE|SHWI|WEST-CREE SHWI",
    "151b CANADIAN SYLLABICS |SHWII|WEST-CREE SHWII|SHWO|WEST-CREE SHWO|SHWOO|WEST-CREE SHWOO",
    "1521 CANADIAN SYLLABICS |SHWA|WEST-CREE SHWA|SHWAA|WEST-CREE SHWAA|SH|YE|YAAI|YI",
    "1529 CANADIAN SYLLABICS |YII|YO|YOO|Y-CREE YOO|YA|YAA|YWE|WEST-CREE YWE|YWI|WEST-CREE YWI",
    "1533 CANADIAN SYLLABICS |YWII|WEST-CREE YWII|YWO|WEST-CREE YWO|YWOO|WEST-CREE YWOO",
    "1539 CANADIAN SYLLABICS |YWA|WEST-CREE YWA|YWAA|WEST-CREE YWAA|NASKAPI YWAA|Y|BIBLE-CREE Y",
    "1540 CANADIAN SYLLABICS |WEST-CREE Y|SAYISI YI|RE|R-CREE RE|WEST-CREE LE|RAAI|RI|RII|RO|ROO",
    "154a CANADIAN SYLLABICS |WEST-CREE LO|RA|RAA|WEST-CREE LA|RWAA|WEST-CREE RWAA|R|WEST-CREE R",
    "1552 CANADIAN SYLLABICS |MEDIAL R|FE|FAAI|FI|FII|FO|FOO|FA|FAA|FWAA|WEST-CREE FWAA",
    "155d CANADIAN SYLLABICS |F|THE|N-CREE THE|THI|N-CREE THI|THII|N-CREE THII|THO|THOO|THA|THAA",
    "1568 CANADIAN SYLLABICS |THWAA|WEST-CREE THWAA|TH|TTHE|TTHI|TTHO|TTHA|TTH|TYE|TYI|TYO|TYA",
    "1574 CANADIAN SYLLABICS NUNAVIK |HE|HI|HII|HO|HOO|HA|HAA|H",
    "157c CANADIAN SYLLABICS |NUNAVUT H|HK|QAAI|QI|QII|QO|QOO|QA|QAA|Q|TLHE|TLHI|TLHO|TLHA",
    "158a CANADIAN SYLLABICS WEST-CREE |RE|RI|RO|RA",
    "158e CANADIAN SYLLABICS |NGAAI|NGI|NGII|NGO|NGOO|NGA|NGAA|NG|NNG",
    "1597 CANADIAN SYLLABICS SAYISI |SHE|SHI|SHO|SHA",
    "159b CANADIAN SYLLABICS WOODS-CREE |THE|THI|THO|THA|TH",
    "15a0 CANADIAN SYLLABICS |LHI|LHII|LHO|LHOO|LHA|LHAA|LH",
    "15a7 CANADIAN SYLLABICS TH-CREE |THE|THI|THII|THO|THOO|THA|THAA|TH",
    "15af |CANADIAN SYLLABICS AIVILIK B",
    "15b0 CANADIAN SYLLABICS BLACKFOOT |E|I|O|A|WE|WI|WO|WA|NE|NI|NO|NA|KE|KI|KO|KA",
    "15c0 CANADIAN SYLLABICS |SAYISI HE|SAYISI HI|SAYISI HO|SAYISI HA|CARRIER GHU",
    "15c5 CANADIAN SYLLABICS CARRIER |GHO|GHE|GHEE|GHI|GHA|RU|RO|RE|REE|RI|RA|WU|WO|WE|WEE|WI",
    "15d5 CANADIAN SYLLABICS CARRIER |WA|HWU|HWO|HWE|HWEE|HWI|HWA|THU|THO|THE|THEE|THI|THA|TTU",
    "15e3 CANADIAN SYLLABICS CARRIER |TTO|TTE|TTEE|TTI|TTA|PU|PO|PE|PEE|PI|PA|P|GU|GO|GE|GEE|GI",
    "15f4 CANADIAN SYLLABICS CARRIER |GA|KHU|KHO|KHE|KHEE|KHI|KHA|KKU|KKO|KKE|KKEE|KKI|KKA|KK|NU",
    "1603 CANADIAN SYLLABICS CARRIER |NO|NE|NEE|NI|NA|MU|MO|ME|MEE|MI|MA|YU|YO|YE|YEE|YI|YA|JU",
    "1615 CANADIAN SYLLABICS |SAYISI JU|CARRIER JO|CARRIER JE|CARRIER JEE|CARRIER JI|SAYISI JI",
    "161b CANADIAN SYLLABICS CARRIER |JA|JJU|JJO|JJE|JJEE|JJI|JJA|LU|LO|LE|LEE|LI|LA|DLU",
    "1629 CANADIAN SYLLABICS CARRIER |DLO|DLE|DLEE|DLI|DLA|LHU|LHO|LHE|LHEE|LHI|LHA|TLHU|TLHO",
    "1636 CANADIAN SYLLABICS CARRIER |TLHE|TLHEE|TLHI|TLHA|TLU|TLO|TLE|TLEE|TLI|TLA|ZU|ZO|ZE|ZEE",
    "1644 CANADIAN SYLLABICS CARRIER |ZI|ZA|Z|INITIAL Z|DZU|DZO|DZE|DZEE|DZI|DZA|SU|SO|SE|SEE",
    "1652 CANADIAN SYLLABICS CARRIER |SI|SA|SHU|SHO|SHE|SHEE|SHI|SHA|SH|TSU|TSO|TSE|TSEE|TSI|TSA",
    "1661 CANADIAN SYLLABICS CARRIER |CHU|CHO|CHE|CHEE|CHI|CHA|TTSU|TTSO|TTSE|TTSEE|TTSI|TTSA",
    "166d CANADIAN SYLLABICS |CHI SIGN|FULL STOP|QAI|NGAI|NNGI|NNGII|NNGO|NNGOO|NNGA|NNGAA",
    "1677 CANADIAN SYLLABICS WOODS-CREE |THWEE|THWI|THWII|THWO|THWOO|THWA|THWAA|FINAL TH",
    "167f |CANADIAN SYLLABICS BLACKFOOT W|OGHAM SPACE MARK",
    "1681 OGHAM LETTER |BEITH|LUIS|FEARN|SAIL|NION|UATH|DAIR|TINNE|COLL|CEIRT|MUIN|GORT",
    "168d OGHAM LETTER |NGEADAL|STRAIF|RUIS|AILM|ONN|UR|EADHADH|IODHADH|EABHADH|OR|UILLEANN|IFIN",
    "1699 OGHAM |LETTER EAMHANCHOLL|LETTER PEITH|FEATHER MARK|REVERSED FEATHER MARK",
    "16a0 RUNIC LETTER |FEHU FEOH FE F|V|URUZ UR U",
    "16a3 RUNIC LETTER |YR|Y|W|THURISAZ THURS THORN|ETH|ANSUZ A|OS O|AC A|AESC|LONG-BRANCH-OSS O",
    "16ad RUNIC LETTER |SHORT-TWIG-OSS O|O|OE|ON|RAIDO RAD REID R|KAUNA|CEN|KAUN K",
    "16b5 RUNIC LETTER |G|ENG|GEBO GYFU G|GAR|WUNJO WYNN W|HAGLAZ H|HAEGL H|LONG-BRANCH-HAGALL H",
    "16bd RUNIC LETTER |SHORT-TWIG-HAGALL H|NAUDIZ NYD NAUD N|SHORT-TWIG-NAUD N",
    "16c0 RUNIC LETTER |DOTTED-N|ISAZ IS ISS I|E|JERAN J|GER|LONG-BRANCH-AR AE|SHORT-TWIG-AR A",
    "16c7 RUNIC LETTER |IWAZ EOH|PERTHO PEORTH P|ALGIZ EOLHX|SOWILO S|SIGEL LONG-BRANCH-SOL S",
    "16cc RUNIC LETTER |SHORT-TWIG-SOL S|C|Z|TIWAZ TIR TYR T|SHORT-TWIG-TYR T|D",
    "16d2 RUNIC LETTER |BERKANAN BEORC BJARKAN B|SHORT-TWIG-BJARKAN B|DOTTED-P|OPEN-P|EHWAZ EH E",
    "16d7 RUNIC LETTER |MANNAZ MAN M|LONG-BRANCH-MADR M|SHORT-TWIG-MADR M|LAUKAZ LAGU LOGR L",
    "16db RUNIC LETTER |DOTTED-L|INGWAZ|ING|DAGAZ DAEG D|OTHALAN ETHEL O|EAR|IOR",
    "16e2 RUNIC LETTER |CWEORTH|CALC|CEALC|STAN|LONG-BRANCH-YR|SHORT-TWIG-YR|ICELANDIC-YR|Q|X",
    "16eb RUNIC |SINGLE PUNCTUATION|MULTIPLE PUNCTUATION|CROSS PUNCTUATION",
    "16ee RUNIC |ARLAUG SYMBOL|TVIMADUR SYMBOL|BELGTHOR SYMBOL|LETTER K|LETTER SH|LETTER OO",
    "16f4 RUNIC LETTER FRANKS CASKET |OS|IS|EH|AC|AESC",
    "1700 TAGALOG LETTER |A|I|U|KA|GA|NGA|TA|DA|NA|PA|BA|MA|YA|RA|LA|WA|SA|HA",
    "1712 TAGALOG |VOWEL SIGN I|VOWEL SIGN U|SIGN VIRAMA|SIGN PAMUDPOD",
    "171f |TAGALOG LETTER ARCHAIC RA",
    "1720 HANUNOO LETTER |A|I|U|KA|GA|NGA|TA|DA|NA|PA|BA|MA|YA|RA|LA|WA|SA|HA",
    "1732 HANUNOO |VOWEL SIGN I|VOWEL SIGN U|SIGN PAMUDPOD",
    "1735 PHILIPPINE |SINGLE PUNCTUATION|DOUBLE PUNCTUATION",
    "1740 BUHID LETTER |A|I|U|KA|GA|NGA|TA|DA|NA|PA|BA|MA|YA|RA|LA|WA|SA|HA",
    "1752 BUHID VOWEL SIGN |I|U",
    "1760 TAGBANWA LETTER |A|I|U|KA|GA|NGA|TA|DA|NA|PA|BA|MA|YA",
    "176e TAGBANWA LETTER |LA|WA|SA",
    "1772 TAGBANWA VOWEL SIGN |I|U",
    "1780 KHMER LETTER |KA|KHA|KO|KHO|NGO|CA|CHA|CO|CHO|NYO|DA|TTHA|DO|TTHO",
    "178e KHMER LETTER |NNO|TA|THA|TO|THO|NO|BA|PHA|PO|PHO|MO|YO|RO|LO|VO|SHA|SSO|SA|HA|LA|QA",
    "17a3 KHMER INDEPENDENT VOWEL |QAQ|QAA|QI|QII|QU|QUK",
    "17a9 KHMER INDEPENDENT VOWEL |QUU|QUUV|RY|RYY|LY|LYY|QE|QAI|QOO TYPE ONE|QOO TYPE TWO|QAU",
    "17b4 KHMER VOWEL INHERENT |AQ|AA",
    "17b6 KHMER VOWEL SIGN |AA|I|II|Y|YY|U|UU|UA|OE|YA|IE|E|AE|AI|OO|AU",
    "17c6 KHMER SIGN |NIKAHIT|REAHMUK|YUUKALEAPINTU|MUUSIKATOAN|TRIISAP|BANTOC",
    "17cc KHMER SIGN |ROBAT|TOANDAKHIAT|KAKABAT|AHSDA|SAMYOK SANNYA|VIRIAM|COENG|BATHAMASAT",
    "17d4 KHMER SIGN |KHAN|BARIYOOSAN|CAMNUC PII KUUH|LEK TOO|BEYYAL|PHNAEK MUAN|KOOMUUT",
    "17db KHMER |CURRENCY SYMBOL RIEL|SIGN AVAKRAHASANYA|SIGN ATTHACAN",
    "17e0 KHMER DIGIT |ZERO|ONE|TWO|THREE|FOUR|FIVE|SIX|SEVEN|EIGHT|NINE",
    "17f0 |KHMER SYMBOL LEK ATTAK SON",
    "17f1 KHMER SYMBOL LEK ATTAK |MUOY|PII|BEI|BUON|PRAM|PRAM-MUOY|PRAM-PII|PRAM-BEI|PRAM-BUON",
    "1800 MONGOLIAN |BIRGA|ELLIPSIS|COMMA|FULL STOP|COLON|FOUR DOTS|TODO SOFT HYPHEN",
    "1807 MONGOLIAN |SIBE SYLLABLE BOUNDARY MARKER|MANCHU COMMA|MANCHU FULL STOP|NIRUGU",
    "180b MONGOLIAN FREE VARIATION SELECTOR |ONE|TWO|THREE",
    "180e MONGOLIAN |VOWEL SEPARATOR|FREE VARIATION SELECTOR FOUR",
    "1810 MONGOLIAN DIGIT |ZERO|ONE|TWO|THREE|FOUR|FIVE|SIX|SEVEN|EIGHT|NINE",
    "1820 MONGOLIAN LETTER |A|E|I|O|U|OE|UE|EE|NA|ANG|BA|PA|QA|GA|MA|LA|SA|SHA|TA|DA|CHA|JA",
    "1836 MONGOLIAN LETTER |YA|RA|WA|FA|KA|KHA|TSA|ZA|HAA|ZRA|LHA|ZHI|CHI|TODO LONG VOWEL SIGN",
    "1844 MONGOLIAN LETTER TODO |E|I|O|U|OE|UE|ANG|BA|PA|QA|GA|MA|TA|DA|CHA|JA|TSA|YA|WA|KA|GAA",
    "1859 MONGOLIAN LETTER |TODO HAA|TODO JIA|TODO NIA|TODO DZA|SIBE E|SIBE I|SIBE IY",
    "1860 MONGOLIAN LETTER SIBE |UE|U|ANG|KA|GA|HA|PA|SHA|TA|DA|JA|FA|GAA|HAA|TSA|ZA|RAA|CHA|ZHA",
    "1873 MONGOLIAN LETTER |MANCHU I|MANCHU KA|MANCHU RA|MANCHU FA|MANCHU ZHA|CHA WITH TWO DOTS",
    "1880 MONGOLIAN LETTER ALI GALI |ANUSVARA ONE|VISARGA ONE",
    "1882 MONGOLIAN LETTER ALI GALI |DAMARU|UBADAMA|INVERTED UBADAMA|BALUDA|THREE BALUDA",
    "1887 MONGOLIAN LETTER ALI GALI |A|I|KA|NGA|CA|TTA|TTHA|DDA|NNA|TA|DA|PA|PHA|SSA|ZHA|ZA|AH",
    "1898 MONGOLIAN LETTER TODO ALI GALI |TA|ZHA",
    "189a MONGOLIAN LETTER MANCHU ALI GALI |GHA|NGA|CA|JHA|TTA|DDHA|TA|DHA|SSA|CYA|ZHA|ZA",
    "18a6 MONGOLIAN LETTER ALI GALI HALF |U|YA",
    "18a8 MONGOLIAN LETTER |MANCHU ALI GALI BHA|ALI GALI DAGALGA|MANCHU ALI GALI LHA",
    "18b0 CANADIAN SYLLABICS |OY|AY|AAY|WAY|POY|PAY|PWOY|TAY|KAY|KWAY|MAY|NOY|NAY|LAY|SOY",
    "18bf CANADIAN SYLLABICS |SAY|SHOY|SHAY|SHWOY|YOY|YAY|RAY|NWI|OJIBWAY NWI|NWII|OJIBWAY NWII",
    "18ca CANADIAN SYLLABICS |NWO|OJIBWAY NWO|NWOO|OJIBWAY NWOO|RWEE|RWI|RWII|RWO|RWOO|RWA",
    "18d4 CANADIAN SYLLABICS OJIBWAY |P|T|K|C|M|N|S|SH",
    "18dc CANADIAN SYLLABICS |EASTERN W|WESTERN W|FINAL SMALL RING",
    "18df CANADIAN SYLLABICS |FINAL RAISED DOT|R-CREE RWE|WEST-CREE LOO|WEST-CREE LAA|THWE|THWA",
    "18e5 CANADIAN SYLLABICS |TTHWE|TTHOO|TTHAA|TLHWE|TLHOO|SAYISI SHWE|SAYISI SHOO|SAYISI HOO",
    "18ed CANADIAN SYLLABICS |CARRIER GWU|CARRIER DENE GEE|CARRIER GAA|CARRIER GWA|SAYISI JUU",
    "18f2 CANADIAN SYLLABICS |CARRIER JWA|BEAVER DENE L|BEAVER DENE R|CARRIER DENTAL S",
    "1900 |LIMBU VOWEL-CARRIER LETTER",
    "1901 LIMBU LETTER |KA|KHA|GA|GHA|NGA|CA|CHA|JA|JHA",
    "190a LIMBU LETTER |YAN|TA|THA|DA|DHA|NA|PA|PHA|BA|BHA|MA|YA|RA|LA|WA|SHA|SSA|SA|HA|GYAN|TRA",
    "1920 LIMBU VOWEL SIGN |A|I|U|EE|AI|OO|AU|E|O",
    "1929 LIMBU SUBJOINED LETTER |YA|RA|WA",
    "1930 LIMBU SMALL LETTER |KA|NGA|ANUSVARA|TA|NA|PA|MA|RA|LA",
    "1939 LIMBU SIGN |MUKPHRENG|KEMPHRENG|SA-I",
    "1940 |LIMBU SIGN LOO",
    "1944 LIMBU |EXCLAMATION MARK|QUESTION MARK",
    "1946 LIMBU DIGIT |ZERO|ONE|TWO|THREE|FOUR|FIVE|SIX|SEVEN|EIGHT|NINE",
    "1950 TAI LE LETTER |KA|XA|NGA|TSA|SA|YA|TA",
    "1957 TAI LE LETTER |THA|LA|PA|PHA|MA|FA|VA|HA|QA|KHA|TSHA|NA|A|I|EE|EH|U|OO|O|UE|E|AUE|AI",
    "1970 TAI LE LETTER |TONE-2|TONE-3|TONE-4|TONE-5|TONE-6",
    "1980 NEW TAI LUE LETTER |HIGH QA|LOW QA|HIGH KA|HIGH XA",
    "1984 NEW TAI LUE LETTER |HIGH NGA|LOW KA|LOW XA|LOW NGA|HIGH TSA|HIGH SA|HIGH YA|LOW TSA",
    "198c NEW TAI LUE LETTER |LOW SA|LOW YA|HIGH TA|HIGH THA|HIGH NA|LOW TA|LOW THA|LOW NA",
    "1994 NEW TAI LUE LETTER |HIGH PA|HIGH PHA|HIGH MA|LOW PA|LOW PHA|LOW MA|HIGH FA|HIGH VA",
    "199c NEW TAI LUE LETTER |HIGH LA|LOW FA|LOW VA|LOW LA|HIGH HA|HIGH DA|HIGH BA|LOW HA",
    "19a4 NEW TAI LUE LETTER |LOW DA|LOW BA|HIGH KVA|HIGH XVA|LOW KVA|LOW XVA|HIGH SUA|LOW SUA",
    "19b0 |NEW TAI LUE VOWEL SIGN VOWEL SHORTENER",
    "19b1 NEW TAI LUE VOWEL SIGN |AA|II|U|UU|E|AE|O|OA|UE|AY|AAY|UY|OY|OAY|UEY|IY",
    "19c1 NEW TAI LUE LETTER FINAL |V|NG|N|M|K|D|B",
    "19c8 NEW TAI LUE TONE |MARK-1|MARK-2",
    "19d0 NEW TAI LUE DIGIT |ZERO|ONE|TWO|THREE|FOUR|FIVE|SIX|SEVEN|EIGHT|NINE",
    "19da |NEW TAI LUE THAM DIGIT ONE",
    "19de NEW TAI LUE SIGN |LAE|LAEV",
    "19e0 KHMER SYMBOL |PATHAMASAT|MUOY KOET|PII KOET",
    "19e3 KHMER SYMBOL |BEI KOET|BUON KOET|PRAM KOET|PRAM-MUOY KOET|PRAM-PII KOET|PRAM-BEI KOET",
    "19e9 KHMER SYMBOL |PRAM-BUON KOET|DAP KOET|DAP-MUOY KOET|DAP-PII KOET|DAP-BEI KOET",
    "19ee KHMER SYMBOL |DAP-BUON KOET|DAP-PRAM KOET|TUTEYASAT|MUOY ROC|PII ROC|BEI ROC",
    "19f4 KHMER SYMBOL |BUON ROC|PRAM ROC|PRAM-MUOY ROC|PRAM-PII ROC|PRAM-BEI ROC|PRAM-BUON ROC",
    "19fa KHMER SYMBOL |DAP ROC|DAP-MUOY ROC|DAP-PII ROC|DAP-BEI ROC|DAP-BUON ROC|DAP-PRAM ROC",
    "1a00 BUGINESE LETTER |KA|GA",
    "1a02 BUGINESE LETTER |NGA|NGKA|PA|BA|MA|MPA|TA|DA|NA|NRA|CA|JA|NYA|NYCA|YA|RA|LA|VA|SA|A|HA",
    "1a17 BUGINESE VOWEL SIGN |I|U|E|O|AE",
    "1a1e BUGINESE |PALLAWA|END OF SECTION",
    "1a20 TAI THAM LETTER |HIGH KA|HIGH KHA|HIGH KXA|LOW KA|LOW KXA|LOW KHA|NGA|HIGH CA",
    "1a28 TAI THAM LETTER |HIGH CHA|LOW CA|LOW SA|LOW CHA|NYA|RATA|HIGH RATHA|DA|LOW RATHA",
    "1a31 TAI THAM LETTER |RANA|HIGH TA|HIGH THA|LOW TA|LOW THA|NA|BA|HIGH PA|HIGH PHA|HIGH FA",
    "1a3b TAI THAM LETTER |LOW PA|LOW FA|LOW PHA|MA|LOW YA|HIGH YA|RA|RUE|LA|LUE|WA|HIGH SHA",
    "1a47 TAI THAM LETTER |HIGH SSA|HIGH SA|HIGH HA|LLA|A|LOW HA|I|II|U|UU|EE|OO|LAE|GREAT SA",
    "1a55 TAI THAM CONSONANT SIGN |MEDIAL RA|MEDIAL LA|LA TANG LAI",
    "1a58 |TAI THAM SIGN MAI KANG LAI",
    "1a59 TAI THAM CONSONANT SIGN |FINAL NGA|LOW PA|HIGH RATHA OR LOW PA|MA|BA|SA",
    "1a60 |TAI THAM SIGN SAKOT",
    "1a61 TAI THAM VOWEL SIGN |A|MAI SAT|AA|TALL AA|I|II|UE|UUE|U|UU|O|OA BELOW|OY|E|AE|OO|AI",
    "1a72 TAI THAM |VOWEL SIGN THAM AI|VOWEL SIGN OA ABOVE|SIGN MAI KANG|SIGN TONE-1|SIGN TONE-2",
    "1a77 TAI THAM SIGN |KHUEN TONE-3|KHUEN TONE-4|KHUEN TONE-5|RA HAAM|MAI SAM|KHUEN-LUE KARAN",
    "1a7f |TAI THAM COMBINING CRYPTOGRAMMIC DOT",
    "1a80 TAI THAM HORA DIGIT |ZERO|ONE|TWO|THREE|FOUR|FIVE|SIX|SEVEN|EIGHT|NINE",
    "1a90 TAI THAM THAM DIGIT |ZERO|ONE|TWO|THREE|FOUR|FIVE|SIX|SEVEN|EIGHT|NINE",
    "1aa0 TAI THAM SIGN |WIANG|WIANGWAAK|SAWAN|KEOW|HOY|DOKMAI|REVERSED ROTATED RANA",
    "1aa7 TAI THAM SIGN |MAI YAMOK|KAAN|KAANKUU|SATKAAN|SATKAANKUU|HANG|CAANG",
    "1ab0 COMBINING |DOUBLED CIRCUMFLEX ACCENT|DIAERESIS-RING",
    "1ab2 COMBINING |INFINITY|DOWNWARDS ARROW|TRIPLE DOT|X-X BELOW|WIGGLY LINE BELOW",
    "1ab7 COMBINING |OPEN MARK BELOW|DOUBLE OPEN MARK BELOW|LIGHT CENTRALIZATION STROKE BELOW",
    "1aba COMBINING |STRONG CENTRALIZATION STROKE BELOW|PARENTHESES ABOVE",
    "1abc COMBINING |DOUBLE PARENTHESES ABOVE|PARENTHESES BELOW|PARENTHESES OVERLAY",
    "1abf COMBINING LATIN SMALL LETTER |W BELOW|TURNED W BELOW",
    "1ac1 |COMBINING LEFT PARENTHESIS ABOVE LEFT",
    "1ac2 COMBINING |RIGHT PARENTHESIS ABOVE RIGHT|LEFT PARENTHESIS BELOW LEFT",
    "1ac4 COMBINING |RIGHT PARENTHESIS BELOW RIGHT|SQUARE BRACKETS ABOVE",
    "1ac6 COMBINING |NUMBER SIGN ABOVE|INVERTED DOUBLE ARCH ABOVE|PLUS SIGN ABOVE",
    "1ac9 COMBINING |DOUBLE PLUS SIGN ABOVE|DOUBLE PLUS SIGN BELOW|TRIPLE ACUTE ACCENT",
    "1acc COMBINING LATIN SMALL LETTER INSULAR |G|R|T",
    "1b00 BALINESE SIGN |ULU RICEM|ULU CANDRA|CECEK|SURANG|BISAH",
    "1b05 BALINESE LETTER |AKARA|AKARA TEDUNG|IKARA|IKARA TEDUNG|UKARA|UKARA TEDUNG",
    "1b0b BALINESE LETTER |RA REPA|RA REPA TEDUNG|LA LENGA|LA LENGA TEDUNG|EKARA|AIKARA|OKARA",
    "1b12 BALINESE LETTER |OKARA TEDUNG|KA|KA MAHAPRANA|GA|GA GORA|NGA|CA|CA LACA|JA|JA JERA|NYA",
    "1b1d BALINESE LETTER TA |LATIK|MURDA MAHAPRANA",
    "1b1f BALINESE LETTER |DA MURDA ALPAPRANA|DA MURDA MAHAPRANA|NA RAMBAT|TA|TA TAWA|DA|DA MADU",
    "1b26 BALINESE LETTER |NA|PA|PA KAPAL|BA|BA KEMBANG|MA|YA|RA|LA|WA|SA SAGA|SA SAPA|SA|HA",
    "1b34 |BALINESE SIGN REREKAN",
    "1b35 BALINESE VOWEL SIGN |TEDUNG|ULU|ULU SARI|SUKU",
    "1b39 BALINESE VOWEL SIGN |SUKU ILUT|RA REPA|RA REPA TEDUNG|LA LENGA|LA LENGA TEDUNG|TALING",
    "1b3f BALINESE VOWEL SIGN |TALING REPA|TALING TEDUNG|TALING REPA TEDUNG|PEPET|PEPET TEDUNG",
    "1b44 BALINESE |ADEG ADEG|LETTER KAF SASAK|LETTER KHOT SASAK",
    "1b47 BALINESE LETTER |TZIR SASAK|EF SASAK|VE SASAK|ZAL SASAK|ASYURA SASAK|ARCHAIC JNYA",
    "1b50 BALINESE DIGIT |ZERO|ONE|TWO|THREE|FOUR|FIVE|SIX|SEVEN|EIGHT|NINE",
    "1b5a BALINESE |PANTI|PAMADA",
    "1b5c BALINESE |WINDU|CARIK PAMUNGKAH|CARIK SIKI|CARIK PAREREN|PAMENENG|MUSICAL SYMBOL DONG",
    "1b62 BALINESE MUSICAL SYMBOL |DENG|DUNG|DANG|DANG SURANG|DING|DAENG|DEUNG|DAING|DANG GEDE",
    "1b6b BALINESE MUSICAL SYMBOL COMBINING |TEGEH|ENDEP|KEMPUL|KEMPLI|JEGOGAN",
    "1b70 BALINESE MUSICAL SYMBOL COMBINING |KEMPUL WITH JEGOGAN|KEMPLI WITH JEGOGAN|BENDE|GONG",
    "1b74 BALINESE MUSICAL SYMBOL RIGHT-HAND |OPEN DUG|OPEN DAG|CLOSED TUK|CLOSED TAK",
    "1b78 BALINESE MUSICAL SYMBOL LEFT-HAND |OPEN PANG|OPEN PUNG|CLOSED PLAK|CLOSED PLUK",
    "1b7c BALINESE |MUSICAL SYMBOL LEFT-HAND OPEN PING|PANTI LANTANG|PAMADA LANTANG",
    "1b80 SUNDANESE SIGN |PANYECEK|PANGLAYAR|PANGWISAD",
    "1b83 SUNDANESE LETTER |A|I|U|AE|O|E|EU|KA",
    "1b8b SUNDANESE LETTER |QA|GA|NGA|CA|JA|ZA|NYA|TA|DA|NA|PA|FA|VA|BA|MA|YA|RA|LA|WA|SA|XA|HA",
    "1ba1 SUNDANESE CONSONANT SIGN |PAMINGKAL|PANYAKRA|PANYIKU",
    "1ba4 SUNDANESE VOWEL SIGN |PANGHULU|PANYUKU|PANAELAENG|PANOLONG|PAMEPET|PANEULEUNG",
    "1baa SUNDANESE SIGN |PAMAAEH|VIRAMA",
    "1bac SUNDANESE CONSONANT SIGN PASANGAN |MA|WA",
    "1bae SUNDANESE LETTER |KHA|SYA",
    "1bb0 SUNDANESE DIGIT |ZERO|ONE|TWO|THREE|FOUR|FIVE|SIX|SEVEN|EIGHT|NINE",
    "1bba |SUNDANESE AVAGRAHA",
    "1bbb SUNDANESE LETTER |REU|LEU|BHA|FINAL K|FINAL M",
    "1bc0 |BATAK LETTER A",
    "1bc1 BATAK LETTER |SIMALUNGUN A|HA|SIMALUNGUN HA|MANDAILING HA|BA|KARO BA|PA|SIMALUNGUN PA",
    "1bc9 BATAK LETTER |NA|MANDAILING NA|WA|SIMALUNGUN WA|PAKPAK WA|GA|SIMALUNGUN GA|JA|DA|RA",
    "1bd3 BATAK LETTER |SIMALUNGUN RA|MA|SIMALUNGUN MA|SOUTHERN TA|NORTHERN TA|SA|SIMALUNGUN SA",
    "1bda BATAK LETTER |MANDAILING SA|YA|SIMALUNGUN YA|NGA|LA|SIMALUNGUN LA|NYA|CA|NDA|MBA|I|U",
    "1be6 |BATAK SIGN TOMPI",
    "1be7 BATAK VOWEL SIGN |E|PAKPAK E|EE|I|KARO I|O|KARO O|U|U FOR SIMALUNGUN SA",
    "1bf0 BATAK |CONSONANT SIGN NG|CONSONANT SIGN H|PANGOLAT|PANONGONAN",
    "1bfc BATAK SYMBOL BINDU |NA METEK|PINARBORAS|JUDUL|PANGOLAT",
    "1c00 LEPCHA LETTER |KA|KLA|KHA|GA|GLA|NGA|CA|CHA|JA|NYA|TA|THA|DA|NA|PA|PLA",
    "1c10 LEPCHA LETTER |PHA|FA|FLA|BA|BLA|MA|MLA|TSA|TSHA|DZA|YA|RA|LA|HA|HLA|VA|SA|SHA|WA|A",
    "1c24 LEPCHA SUBJOINED LETTER |YA|RA",
    "1c26 LEPCHA VOWEL SIGN |AA|I|O|OO|U|UU|E",
    "1c2d LEPCHA CONSONANT SIGN |K|M|L|N|P|R|T|NYIN-DO|KANG",
    "1c36 LEPCHA SIGN |RAN|NUKTA",
    "1c3b LEPCHA PUNCTUATION |TA-ROL|NYET THYOOM TA-ROL|CER-WA|TSHOOK CER-WA|TSHOOK",
    "1c40 LEPCHA DIGIT |ZERO|ONE|TWO|THREE|FOUR|FIVE|SIX|SEVEN|EIGHT|NINE",
    "1c4d LEPCHA LETTER |TTA|TTHA|DDA",
    "1c50 OL CHIKI DIGIT |ZERO|ONE|TWO|THREE|FOUR|FIVE|SIX|SEVEN|EIGHT|NINE",
    "1c5a OL CHIKI LETTER |LA|AT|AG|ANG|AL|LAA|AAK|AAJ|AAM",
    "1c63 OL CHIKI LETTER |AAW|LI|IS|IH|INY|IR|LU|UC|UD|UNN|UY|LE|EP|EDD|EN|ERR|LO|OTT|OB|OV|OH",
    "1c78 OL CHIKI |MU TTUDDAG|GAAHLAA TTUDDAAG|MU-GAAHLAA TTUDDAAG|RELAA|PHAARKAA|AHAD",
    "1c7e OL CHIKI PUNCTUATION |MUCAAD|DOUBLE MUCAAD",
    "1c80 CYRILLIC SMALL LETTER |ROUNDED VE|LONG-LEGGED DE|NARROW O|WIDE ES",
    "1c84 CYRILLIC SMALL LETTER |TALL TE|THREE-LEGGED TE|TALL HARD SIGN|TALL YAT|UNBLENDED UK",
    "1c90 GEORGIAN MTAVRULI CAPITAL LETTER |AN|BAN|GAN|DON|EN|VIN|ZEN|TAN",
    "1c98 GEORGIAN MTAVRULI CAPITAL LETTER |IN|KAN|LAS|MAN|NAR|ON|PAR|ZHAR|RAE|SAN|TAR|UN|PHAR",
    "1ca5 GEORGIAN MTAVRULI CAPITAL LETTER |KHAR|GHAN|QAR|SHIN|CHIN|CAN|JIL|CIL|CHAR|XAN|JHAN",
    "1cb0 GEORGIAN MTAVRULI CAPITAL LETTER |HAE|HE|HIE|WE|HAR|HOE|FI|YN|ELIFI|TURNED GAN|AIN",
    "1cbd GEORGIAN MTAVRULI CAPITAL LETTER |AEN|HARD SIGN|LABIAL SIGN",
    "1cc0 SUNDANESE PUNCTUATION BINDU |SURYA|PANGLONG|PURNAMA",
    "1cc3 SUNDANESE PUNCTUATION BINDU |CAKRA|LEU SATANGA|KA SATANGA|DA SATANGA|BA SATANGA",
    "1cd0 VEDIC TONE |KARSHANA|SHARA|PRENKHA",
    "1cd3 VEDIC SIGN |NIHSHVASA|YAJURVEDIC MIDLINE SVARITA",
    "1cd5 VEDIC TONE YAJURVEDIC |AGGRAVATED INDEPENDENT SVARITA|INDEPENDENT SVARITA",
    "1cd7 VEDIC TONE |YAJURVEDIC KATHAKA INDEPENDENT SVARITA|CANDRA BELOW",
    "1cd9 VEDIC TONE |YAJURVEDIC KATHAKA INDEPENDENT SVARITA SCHROEDER|DOUBLE SVARITA",
    "1cdb VEDIC TONE |TRIPLE SVARITA|KATHAKA ANUDATTA|DOT BELOW|TWO DOTS BELOW|THREE DOTS BELOW",
    "1ce0 VEDIC TONE |RIGVEDIC KASHMIRI INDEPENDENT SVARITA|ATHARVAVEDIC INDEPENDENT SVARITA",
    "1ce2 VEDIC SIGN VISARGA |SVARITA|UDATTA",
    "1ce4 VEDIC SIGN |REVERSED VISARGA UDATTA|VISARGA ANUDATTA|REVERSED VISARGA ANUDATTA",
    "1ce7 VEDIC SIGN VISARGA |UDATTA WITH TAIL|ANUDATTA WITH TAIL",
    "1ce9 VEDIC SIGN ANUSVARA |ANTARGOMUKHA|BAHIRGOMUKHA|VAMAGOMUKHA|VAMAGOMUKHA WITH TAIL",
    "1ced VEDIC SIGN |TIRYAK|HEXIFORM LONG ANUSVARA|LONG ANUSVARA|RTHANG LONG ANUSVARA",
    "1cf1 VEDIC SIGN |ANUSVARA UBHAYATO MUKHA|ARDHAVISARGA|ROTATED ARDHAVISARGA",
    "1cf4 VEDIC |TONE CANDRA ABOVE|SIGN JIHVAMULIYA|SIGN UPADHMANIYA|SIGN ATIKRAMA",
    "1cf8 VEDIC |TONE RING ABOVE|TONE DOUBLE RING ABOVE|SIGN DOUBLE ANUSVARA ANTARGOMUKHA",
    "1d00 LATIN LETTER SMALL CAPITAL |A|AE",
    "1d02 |LATIN SMALL LETTER TURNED AE",
    "1d03 LATIN LETTER SMALL CAPITAL |BARRED B|C|D|ETH|E",
    "1d08 LATIN SMALL LETTER TURNED |OPEN E|I",
    "1d0a LATIN LETTER SMALL CAPITAL |J|K|L WITH STROKE|M|REVERSED N|O|OPEN O",
    "1d11 LATIN SMALL LETTER |SIDEWAYS O|SIDEWAYS OPEN O|SIDEWAYS O WITH STROKE|TURNED OE",
    "1d15 LATIN |LETTER SMALL CAPITAL OU|SMALL LETTER TOP HALF O|SMALL LETTER BOTTOM HALF O",
    "1d18 LATIN LETTER SMALL CAPITAL |P|REVERSED R|TURNED R|T|U",
    "1d1d LATIN SMALL LETTER SIDEWAYS |U|DIAERESIZED U|TURNED M",
    "1d20 LATIN LETTER SMALL CAPITAL |V|W|Z|EZH",
    "1d24 LATIN LETTER |VOICED LARYNGEAL SPIRANT|AIN",
    "1d26 GREEK LETTER SMALL CAPITAL |GAMMA|LAMDA|PI|RHO|PSI",
    "1d2b |CYRILLIC LETTER SMALL CAPITAL EL",
    "1d2c MODIFIER LETTER CAPITAL |A|AE|B|BARRED B",
    "1d30 MODIFIER LETTER CAPITAL |D|E|REVERSED E|G|H|I|J|K|L|M|N|REVERSED N|O|OU|P|R|T|U|W",
    "1d43 MODIFIER LETTER SMALL |A|TURNED A|ALPHA|TURNED AE|B|D|E|SCHWA|OPEN E|TURNED OPEN E",
    "1d4d MODIFIER LETTER SMALL |G|TURNED I|K|M|ENG|O|OPEN O|TOP HALF O|BOTTOM HALF O|P|T|U",
    "1d59 MODIFIER LETTER SMALL |SIDEWAYS U|TURNED M|V|AIN|BETA|GREEK GAMMA|DELTA|GREEK PHI|CHI",
    "1d62 LATIN SUBSCRIPT SMALL LETTER |I|R|U|V",
    "1d66 GREEK SUBSCRIPT SMALL LETTER |BETA|GAMMA|RHO|PHI|CHI",
    "1d6b LATIN SMALL LETTER |UE|B WITH MIDDLE TILDE|D WITH MIDDLE TILDE|F WITH MIDDLE TILDE",
    "1d6f LATIN SMALL LETTER |M WITH MIDDLE TILDE|N WITH MIDDLE TILDE|P WITH MIDDLE TILDE",
    "1d72 LATIN SMALL LETTER R WITH |MIDDLE TILDE|FISHHOOK AND MIDDLE TILDE",
    "1d74 LATIN SMALL LETTER |S WITH MIDDLE TILDE|T WITH MIDDLE TILDE|Z WITH MIDDLE TILDE",
    "1d77 |LATIN SMALL LETTER TURNED G|MODIFIER LETTER CYRILLIC EN",
    "1d79 LATIN SMALL LETTER |INSULAR G|TH WITH STRIKETHROUGH",
    "1d7b LATIN SMALL |CAPITAL LETTER I WITH STROKE|LETTER IOTA WITH STROKE|LETTER P WITH STROKE",
    "1d7e LATIN SMALL |CAPITAL LETTER U WITH STROKE|LETTER UPSILON WITH STROKE",
    "1d80 LATIN SMALL LETTER |B WITH PALATAL HOOK|D WITH PALATAL HOOK|F WITH PALATAL HOOK",
    "1d83 LATIN SMALL LETTER |G WITH PALATAL HOOK|K WITH PALATAL HOOK|L WITH PALATAL HOOK",
    "1d86 LATIN SMALL LETTER |M WITH PALATAL HOOK|N WITH PALATAL HOOK|P WITH PALATAL HOOK",
    "1d89 LATIN SMALL LETTER |R WITH PALATAL HOOK|S WITH PALATAL HOOK|ESH WITH PALATAL HOOK",
    "1d8c LATIN SMALL LETTER |V WITH PALATAL HOOK|X WITH PALATAL HOOK|Z WITH PALATAL HOOK",
    "1d8f LATIN SMALL LETTER |A WITH RETROFLEX HOOK|ALPHA WITH RETROFLEX HOOK",
    "1d91 LATIN SMALL LETTER |D WITH HOOK AND TAIL|E WITH RETROFLEX HOOK",
    "1d93 LATIN SMALL LETTER |OPEN E WITH RETROFLEX HOOK|REVERSED OPEN E WITH RETROFLEX HOOK",
    "1d95 LATIN SMALL LETTER |SCHWA WITH RETROFLEX HOOK|I WITH RETROFLEX HOOK",
    "1d97 LATIN SMALL LETTER |OPEN O WITH RETROFLEX HOOK|ESH WITH RETROFLEX HOOK",
    "1d99 LATIN SMALL LETTER |U WITH RETROFLEX HOOK|EZH WITH RETROFLEX HOOK",
    "1d9b MODIFIER LETTER SMALL |TURNED ALPHA|C|C WITH CURL|ETH|REVERSED OPEN E",
    "1da0 MODIFIER LETTER SMALL |F|DOTLESS J WITH STROKE|SCRIPT G|TURNED H|I WITH STROKE|IOTA",
    "1da6 MODIFIER LETTER SMALL CAPITAL |I|I WITH STROKE",
    "1da8 MODIFIER LETTER SMALL |J WITH CROSSED-TAIL|L WITH RETROFLEX HOOK|L WITH PALATAL HOOK",
    "1dab MODIFIER LETTER SMALL |CAPITAL L|M WITH HOOK|TURNED M WITH LONG LEG|N WITH LEFT HOOK",
    "1daf MODIFIER LETTER SMALL |N WITH RETROFLEX HOOK|CAPITAL N|BARRED O|PHI|S WITH HOOK",
    "1db4 MODIFIER LETTER SMALL |ESH|T WITH PALATAL HOOK|U BAR|UPSILON|CAPITAL U|V WITH HOOK",
    "1dba MODIFIER LETTER SMALL |TURNED V|Z|Z WITH RETROFLEX HOOK|Z WITH CURL|EZH|THETA",
    "1dc0 COMBINING DOTTED |GRAVE ACCENT|ACUTE ACCENT",
    "1dc2 COMBINING |SNAKE BELOW|SUSPENSION MARK|MACRON-ACUTE|GRAVE-MACRON|MACRON-GRAVE",
    "1dc7 COMBINING |ACUTE-MACRON|GRAVE-ACUTE-GRAVE|ACUTE-GRAVE-ACUTE|LATIN SMALL LETTER R BELOW",
    "1dcb COMBINING |BREVE-MACRON|MACRON-BREVE|DOUBLE CIRCUMFLEX ABOVE",
    "1dce COMBINING |OGONEK ABOVE|ZIGZAG BELOW|IS BELOW|UR ABOVE|US ABOVE",
    "1dd3 COMBINING LATIN SMALL LETTER |FLATTENED OPEN A ABOVE|AE|AO|AV|C CEDILLA|INSULAR D|ETH",
    "1dda COMBINING LATIN |SMALL LETTER G|LETTER SMALL CAPITAL G|SMALL LETTER K|SMALL LETTER L",
    "1dde COMBINING LATIN LETTER SMALL CAPITAL |L|M",
    "1de0 COMBINING LATIN |SMALL LETTER N|LETTER SMALL CAPITAL N|LETTER SMALL CAPITAL R",
    "1de3 COMBINING LATIN SMALL LETTER |R ROTUNDA|S",
    "1de5 COMBINING LATIN SMALL LETTER |LONG S|Z|ALPHA|B|BETA|SCHWA|F|L WITH DOUBLE MIDDLE TILDE",
    "1ded |COMBINING LATIN SMALL LETTER O WITH LIGHT CENTRALIZATION STROKE",
    "1dee COMBINING LATIN SMALL LETTER |P|ESH|U WITH LIGHT CENTRALIZATION STROKE",
    "1df1 COMBINING LATIN SMALL LETTER |W|A WITH DIAERESIS|O WITH DIAERESIS|U WITH DIAERESIS",
    "1df5 COMBINING |UP TACK ABOVE|KAVYKA ABOVE RIGHT",
    "1df7 COMBINING |KAVYKA ABOVE LEFT|DOT ABOVE LEFT|WIDE INVERTED BRIDGE BELOW|DOT BELOW LEFT",
    "1dfb COMBINING |DELETION MARK|DOUBLE INVERTED BREVE BELOW|ALMOST EQUAL TO BELOW",
    "1dfe COMBINING |LEFT ARROWHEAD ABOVE|RIGHT ARROWHEAD AND DOWN ARROWHEAD BELOW",
    "1e00 |LATIN CAPITAL LETTER A WITH RING BELOW",
    "1e01 LATIN |SMALL LETTER A WITH RING BELOW|CAPITAL LETTER B WITH DOT ABOVE",
    "1e03 LATIN |SMALL LETTER B WITH DOT ABOVE|CAPITAL LETTER B WITH DOT BELOW",
    "1e05 LATIN |SMALL LETTER B WITH DOT BELOW|CAPITAL LETTER B WITH LINE BELOW",
    "1e07 LATIN |SMALL LETTER B WITH LINE BELOW|CAPITAL LETTER C WITH CEDILLA AND ACUTE",
    "1e09 LATIN |SMALL LETTER C WITH CEDILLA AND ACUTE|CAPITAL LETTER D WITH DOT ABOVE",
    "1e0b LATIN |SMALL LETTER D WITH DOT ABOVE|CAPITAL LETTER D WITH DOT BELOW",
    "1e0d LATIN |SMALL LETTER D WITH DOT BELOW|CAPITAL LETTER D WITH LINE BELOW",
    "1e0f LATIN |SMALL LETTER D WITH LINE BELOW|CAPITAL LETTER D WITH CEDILLA",
    "1e11 LATIN |SMALL LETTER D WITH CEDILLA|CAPITAL LETTER D WITH CIRCUMFLEX BELOW",
    "1e13 LATIN |SMALL LETTER D WITH CIRCUMFLEX BELOW|CAPITAL LETTER E WITH MACRON AND GRAVE",
    "1e15 LATIN |SMALL LETTER E WITH MACRON AND GRAVE|CAPITAL LETTER E WITH MACRON AND ACUTE",
    "1e17 LATIN |SMALL LETTER E WITH MACRON AND ACUTE|CAPITAL LETTER E WITH CIRCUMFLEX BELOW",
    "1e19 LATIN |SMALL LETTER E WITH CIRCUMFLEX BELOW|CAPITAL LETTER E WITH TILDE BELOW",
    "1e1b LATIN |SMALL LETTER E WITH TILDE BELOW|CAPITAL LETTER E WITH CEDILLA AND BREVE",
    "1e1d LATIN |SMALL LETTER E WITH CEDILLA AND BREVE|CAPITAL LETTER F WITH DOT ABOVE",
    "1e1f LATIN |SMALL LETTER F WITH DOT ABOVE|CAPITAL LETTER G WITH MACRON",
    "1e21 LATIN |SMALL LETTER G WITH MACRON|CAPITAL LETTER H WITH DOT ABOVE",
    "1e23 LATIN |SMALL LETTER H WITH DOT ABOVE|CAPITAL LETTER H WITH DOT BELOW",
    "1e25 LATIN |SMALL LETTER H WITH DOT BELOW|CAPITAL LETTER H WITH DIAERESIS",
    "1e27 LATIN |SMALL LETTER H WITH DIAERESIS|CAPITAL LETTER H WITH CEDILLA",
    "1e29 LATIN |SMALL LETTER H WITH CEDILLA|CAPITAL LETTER H WITH BREVE BELOW",
    "1e2b LATIN |SMALL LETTER H WITH BREVE BELOW|CAPITAL LETTER I WITH TILDE BELOW",
    "1e2d LATIN |SMALL LETTER I WITH TILDE BELOW|CAPITAL LETTER I WITH DIAERESIS AND ACUTE",
    "1e2f LATIN |SMALL LETTER I WITH DIAERESIS AND ACUTE|CAPITAL LETTER K WITH ACUTE",
    "1e31 LATIN |SMALL LETTER K WITH ACUTE|CAPITAL LETTER K WITH DOT BELOW",
    "1e33 LATIN |SMALL LETTER K WITH DOT BELOW|CAPITAL LETTER K WITH LINE BELOW",
    "1e35 LATIN |SMALL LETTER K WITH LINE BELOW|CAPITAL LETTER L WITH DOT BELOW",
    "1e37 LATIN |SMALL LETTER L WITH DOT BELOW|CAPITAL LETTER L WITH DOT BELOW AND MACRON",
    "1e39 LATIN |SMALL LETTER L WITH DOT BELOW AND MACRON|CAPITAL LETTER L WITH LINE BELOW",
    "1e3b LATIN |SMALL LETTER L WITH LINE BELOW|CAPITAL LETTER L WITH CIRCUMFLEX BELOW",
    "1e3d LATIN |SMALL LETTER L WITH CIRCUMFLEX BELOW|CAPITAL LETTER M WITH ACUTE",
    "1e3f LATIN |SMALL LETTER M WITH ACUTE|CAPITAL LETTER M WITH DOT ABOVE",
    "1e41 LATIN |SMALL LETTER M WITH DOT ABOVE|CAPITAL LETTER M WITH DOT BELOW",
    "1e43 LATIN |SMALL LETTER M WITH DOT BELOW|CAPITAL LETTER N WITH DOT ABOVE",
    "1e45 LATIN |SMALL LETTER N WITH DOT ABOVE|CAPITAL LETTER N WITH DOT BELOW",
    "1e47 LATIN |SMALL LETTER N WITH DOT BELOW|CAPITAL LETTER N WITH LINE BELOW",
    "1e49 LATIN |SMALL LETTER N WITH LINE BELOW|CAPITAL LETTER N WITH CIRCUMFLEX BELOW",
    "1e4b LATIN |SMALL LETTER N WITH CIRCUMFLEX BELOW|CAPITAL LETTER O WITH TILDE AND ACUTE",
    "1e4d LATIN |SMALL LETTER O WITH TILDE AND ACUTE|CAPITAL LETTER O WITH TILDE AND DIAERESIS",
    "1e4f LATIN |SMALL LETTER O WITH TILDE AND DIAERESIS|CAPITAL LETTER O WITH MACRON AND GRAVE",
    "1e51 LATIN |SMALL LETTER O WITH MACRON AND GRAVE|CAPITAL LETTER O WITH MACRON AND ACUTE",
    "1e53 LATIN |SMALL LETTER O WITH MACRON AND ACUTE|CAPITAL LETTER P WITH ACUTE",
    "1e55 LATIN |SMALL LETTER P WITH ACUTE|CAPITAL LETTER P WITH DOT ABOVE",
    "1e57 LATIN |SMALL LETTER P WITH DOT ABOVE|CAPITAL LETTER R WITH DOT ABOVE",
    "1e59 LATIN |SMALL LETTER R WITH DOT ABOVE|CAPITAL LETTER R WITH DOT BELOW",
    "1e5b LATIN |SMALL LETTER R WITH DOT BELOW|CAPITAL LETTER R WITH DOT BELOW AND MACRON",
    "1e5d LATIN |SMALL LETTER R WITH DOT BELOW AND MACRON|CAPITAL LETTER R WITH LINE BELOW",
    "1e5f LATIN |SMALL LETTER R WITH LINE BELOW|CAPITAL LETTER S WITH DOT ABOVE",
    "1e61 LATIN |SMALL LETTER S WITH DOT ABOVE|CAPITAL LETTER S WITH DOT BELOW",
    "1e63 LATIN |SMALL LETTER S WITH DOT BELOW|CAPITAL LETTER S WITH ACUTE AND DOT ABOVE",
    "1e65 |LATIN SMALL LETTER S WITH ACUTE AND DOT ABOVE",
    "1e66 |LATIN CAPITAL LETTER S WITH CARON AND DOT ABOVE",
    "1e67 |LATIN SMALL LETTER S WITH CARON AND DOT ABOVE",
    "1e68 |LATIN CAPITAL LETTER S WITH DOT BELOW AND DOT ABOVE",
    "1e69 LATIN |SMALL LETTER S WITH DOT BELOW AND DOT ABOVE|CAPITAL LETTER T WITH DOT ABOVE",
    "1e6b LATIN |SMALL LETTER T WITH DOT ABOVE|CAPITAL LETTER T WITH DOT BELOW",
    "1e6d LATIN |SMALL LETTER T WITH DOT BELOW|CAPITAL LETTER T WITH LINE BELOW",
    "1e6f LATIN |SMALL LETTER T WITH LINE BELOW|CAPITAL LETTER T WITH CIRCUMFLEX BELOW",
    "1e71 LATIN |SMALL LETTER T WITH CIRCUMFLEX BELOW|CAPITAL LETTER U WITH DIAERESIS BELOW",
    "1e73 LATIN |SMALL LETTER U WITH DIAERESIS BELOW|CAPITAL LETTER U WITH TILDE BELOW",
    "1e75 LATIN |SMALL LETTER U WITH TILDE BELOW|CAPITAL LETTER U WITH CIRCUMFLEX BELOW",
    "1e77 LATIN |SMALL LETTER U WITH CIRCUMFLEX BELOW|CAPITAL LETTER U WITH TILDE AND ACUTE",
    "1e79 LATIN |SMALL LETTER U WITH TILDE AND ACUTE|CAPITAL LETTER U WITH MACRON AND DIAERESIS",
    "1e7b LATIN |SMALL LETTER U WITH MACRON AND DIAERESIS|CAPITAL LETTER V WITH TILDE",
    "1e7d LATIN |SMALL LETTER V WITH TILDE|CAPITAL LETTER V WITH DOT BELOW",
    "1e7f LATIN |SMALL LETTER V WITH DOT BELOW|CAPITAL LETTER W WITH GRAVE",
    "1e81 LATIN |SMALL LETTER W WITH GRAVE|CAPITAL LETTER W WITH ACUTE",
    "1e83 LATIN |SMALL LETTER W WITH ACUTE|CAPITAL LETTER W WITH DIAERESIS",
    "1e85 LATIN |SMALL LETTER W WITH DIAERESIS|CAPITAL LETTER W WITH DOT ABOVE",
    "1e87 LATIN |SMALL LETTER W WITH DOT ABOVE|CAPITAL LETTER W WITH DOT BELOW",
    "1e89 LATIN |SMALL LETTER W WITH DOT BELOW|CAPITAL LETTER X WITH DOT ABOVE",
    "1e8b LATIN |SMALL LETTER X WITH DOT ABOVE|CAPITAL LETTER X WITH DIAERESIS",
    "1e8d LATIN |SMALL LETTER X WITH DIAERESIS|CAPITAL LETTER Y WITH DOT ABOVE",
    "1e8f LATIN |SMALL LETTER Y WITH DOT ABOVE|CAPITAL LETTER Z WITH CIRCUMFLEX",
    "1e91 LATIN |SMALL LETTER Z WITH CIRCUMFLEX|CAPITAL LETTER Z WITH DOT BELOW",
    "1e93 LATIN |SMALL LETTER Z WITH DOT BELOW|CAPITAL LETTER Z WITH LINE BELOW",
    "1e95 LATIN SMALL LETTER |Z WITH LINE BELOW|H WITH LINE BELOW|T WITH DIAERESIS",
    "1e98 LATIN SMALL LETTER |W WITH RING ABOVE|Y WITH RING ABOVE|A WITH RIGHT HALF RING",
    "1e9b LATIN SMALL LETTER LONG S WITH |DOT ABOVE|DIAGONAL STROKE|HIGH STROKE",
    "1e9e LATIN |CAPITAL LETTER SHARP S|SMALL LETTER DELTA|CAPITAL LETTER A WITH DOT BELOW",
    "1ea1 LATIN |SMALL LETTER A WITH DOT BELOW|CAPITAL LETTER A WITH HOOK ABOVE",
    "1ea3 LATIN |SMALL LETTER A WITH HOOK ABOVE|CAPITAL LETTER A WITH CIRCUMFLEX AND ACUTE",
    "1ea5 |LATIN SMALL LETTER A WITH CIRCUMFLEX AND ACUTE",
    "1ea6 |LATIN CAPITAL LETTER A WITH CIRCUMFLEX AND GRAVE",
    "1ea7 |LATIN SMALL LETTER A WITH CIRCUMFLEX AND GRAVE",
    "1ea8 |LATIN CAPITAL LETTER A WITH CIRCUMFLEX AND HOOK ABOVE",
    "1ea9 |LATIN SMALL LETTER A WITH CIRCUMFLEX AND HOOK ABOVE",
    "1eaa |LATIN CAPITAL LETTER A WITH CIRCUMFLEX AND TILDE",
    "1eab |LATIN SMALL LETTER A WITH CIRCUMFLEX AND TILDE",
    "1eac |LATIN CAPITAL LETTER A WITH CIRCUMFLEX AND DOT BELOW",
    "1ead |LATIN SMALL LETTER A WITH CIRCUMFLEX AND DOT BELOW",
    "1eae |LATIN CAPITAL LETTER A WITH BREVE AND ACUTE",
    "1eaf LATIN |SMALL LETTER A WITH BREVE AND ACUTE|CAPITAL LETTER A WITH BREVE AND GRAVE",
    "1eb1 LATIN |SMALL LETTER A WITH BREVE AND GRAVE|CAPITAL LETTER A WITH BREVE AND HOOK ABOVE",
    "1eb3 LATIN |SMALL LETTER A WITH BREVE AND HOOK ABOVE|CAPITAL LETTER A WITH BREVE AND TILDE",
    "1eb5 LATIN |SMALL LETTER A WITH BREVE AND TILDE|CAPITAL LETTER A WITH BREVE AND DOT BELOW",
    "1eb7 LATIN |SMALL LETTER A WITH BREVE AND DOT BELOW|CAPITAL LETTER E WITH DOT BELOW",
    "1eb9 LATIN |SMALL LETTER E WITH DOT BELOW|CAPITAL LETTER E WITH HOOK ABOVE",
    "1ebb LATIN |SMALL LETTER E WITH HOOK ABOVE|CAPITAL LETTER E WITH TILDE",
    "1ebd LATIN |SMALL LETTER E WITH TILDE|CAPITAL LETTER E WITH CIRCUMFLEX AND ACUTE",
    "1ebf |LATIN SMALL LETTER E WITH CIRCUMFLEX AND ACUTE",
    "1ec0 |LATIN CAPITAL LETTER E WITH CIRCUMFLEX AND GRAVE",
    "1ec1 |LATIN SMALL LETTER E WITH CIRCUMFLEX AND GRAVE",
    "1ec2 |LATIN CAPITAL LETTER E WITH CIRCUMFLEX AND HOOK ABOVE",
    "1ec3 |LATIN SMALL LETTER E WITH CIRCUMFLEX AND HOOK ABOVE",
    "1ec4 |LATIN CAPITAL LETTER E WITH CIRCUMFLEX AND TILDE",
    "1ec5 |LATIN SMALL LETTER E WITH CIRCUMFLEX AND TILDE",
    "1ec6 |LATIN CAPITAL LETTER E WITH CIRCUMFLEX AND DOT BELOW",
    "1ec7 LATIN |SMALL LETTER E WITH CIRCUMFLEX AND DOT BELOW|CAPITAL LETTER I WITH HOOK ABOVE",
    "1ec9 LATIN |SMALL LETTER I WITH HOOK ABOVE|CAPITAL LETTER I WITH DOT BELOW",
    "1ecb LATIN |SMALL LETTER I WITH DOT BELOW|CAPITAL LETTER O WITH DOT BELOW",
    "1ecd LATIN |SMALL LETTER O WITH DOT BELOW|CAPITAL LETTER O WITH HOOK ABOVE",
    "1ecf LATIN |SMALL LETTER O WITH HOOK ABOVE|CAPITAL LETTER O WITH CIRCUMFLEX AND ACUTE",
    "1ed1 |LATIN SMALL LETTER O WITH CIRCUMFLEX AND ACUTE",
    "1ed2 |LATIN CAPITAL LETTER O WITH CIRCUMFLEX AND GRAVE",
    "1ed3 |LATIN SMALL LETTER O WITH CIRCUMFLEX AND GRAVE",
    "1ed4 |LATIN CAPITAL LETTER O WITH CIRCUMFLEX AND HOOK ABOVE",
    "1ed5 |LATIN SMALL LETTER O WITH CIRCUMFLEX AND HOOK ABOVE",
    "1ed6 |LATIN CAPITAL LETTER O WITH CIRCUMFLEX AND TILDE",
    "1ed7 |LATIN SMALL LETTER O WITH CIRCUMFLEX AND TILDE",
    "1ed8 |LATIN CAPITAL LETTER O WITH CIRCUMFLEX AND DOT BELOW",
    "1ed9 |LATIN SMALL LETTER O WITH CIRCUMFLEX AND DOT BELOW",
    "1eda |LATIN CAPITAL LETTER O WITH HORN AND ACUTE",
    "1edb LATIN |SMALL LETTER O WITH HORN AND ACUTE|CAPITAL LETTER O WITH HORN AND GRAVE",
    "1edd LATIN |SMALL LETTER O WITH HORN AND GRAVE|CAPITAL LETTER O WITH HORN AND HOOK ABOVE",
    "1edf LATIN |SMALL LETTER O WITH HORN AND HOOK ABOVE|CAPITAL LETTER O WITH HORN AND TILDE",
    "1ee1 LATIN |SMALL LETTER O WITH HORN AND TILDE|CAPITAL LETTER O WITH HORN AND DOT BELOW",
    "1ee3 LATIN |SMALL LETTER O WITH HORN AND DOT BELOW|CAPITAL LETTER U WITH DOT BELOW",
    "1ee5 LATIN |SMALL LETTER U WITH DOT BELOW|CAPITAL LETTER U WITH HOOK ABOVE",
    "1ee7 LATIN |SMALL LETTER U WITH HOOK ABOVE|CAPITAL LETTER U WITH HORN AND ACUTE",
    "1ee9 LATIN |SMALL LETTER U WITH HORN AND ACUTE|CAPITAL LETTER U WITH HORN AND GRAVE",
    "1eeb LATIN |SMALL LETTER U WITH HORN AND GRAVE|CAPITAL LETTER U WITH HORN AND HOOK ABOVE",
    "1eed LATIN |SMALL LETTER U WITH HORN AND HOOK ABOVE|CAPITAL LETTER U WITH HORN AND TILDE",
    "1eef LATIN |SMALL LETTER U WITH HORN AND TILDE|CAPITAL LETTER U WITH HORN AND DOT BELOW",
    "1ef1 LATIN |SMALL LETTER U WITH HORN AND DOT BELOW|CAPITAL LETTER Y WITH GRAVE",
    "1ef3 LATIN |SMALL LETTER Y WITH GRAVE|CAPITAL LETTER Y WITH DOT BELOW",
    "1ef5 LATIN |SMALL LETTER Y WITH DOT BELOW|CAPITAL LETTER Y WITH HOOK ABOVE",
    "1ef7 LATIN |SMALL LETTER Y WITH HOOK ABOVE|CAPITAL LETTER Y WITH TILDE",
    "1ef9 LATIN |SMALL LETTER Y WITH TILDE|CAPITAL LETTER MIDDLE-WELSH LL",
    "1efb LATIN |SMALL LETTER MIDDLE-WELSH LL|CAPITAL LETTER MIDDLE-WELSH V",
    "1efd LATIN |SMALL LETTER MIDDLE-WELSH V|CAPITAL LETTER Y WITH LOOP|SMALL LETTER Y WITH LOOP",
    "1f00 GREEK SMALL LETTER ALPHA WITH |PSILI|DASIA|PSILI AND VARIA",
    "1f03 GREEK SMALL LETTER ALPHA WITH |DASIA AND VARIA|PSILI AND OXIA|DASIA AND OXIA",
    "1f06 GREEK SMALL LETTER ALPHA WITH |PSILI AND PERISPOMENI|DASIA AND PERISPOMENI",
    "1f08 GREEK CAPITAL LETTER ALPHA WITH |PSILI|DASIA|PSILI AND VARIA",
    "1f0b GREEK CAPITAL LETTER ALPHA WITH |DASIA AND VARIA|PSILI AND OXIA|DASIA AND OXIA",
    "1f0e GREEK CAPITAL LETTER ALPHA WITH |PSILI AND PERISPOMENI|DASIA AND PERISPOMENI",
    "1f10 GREEK SMALL LETTER EPSILON WITH |PSILI|DASIA|PSILI AND VARIA",
    "1f13 GREEK SMALL LETTER EPSILON WITH |DASIA AND VARIA|PSILI AND OXIA|DASIA AND OXIA",
    "1f18 GREEK CAPITAL LETTER EPSILON WITH |PSILI|DASIA|PSILI AND VARIA",
    "1f1b GREEK CAPITAL LETTER EPSILON WITH |DASIA AND VARIA|PSILI AND OXIA|DASIA AND OXIA",
    "1f20 GREEK SMALL LETTER ETA WITH |PSILI|DASIA|PSILI AND VARIA",
    "1f23 GREEK SMALL LETTER ETA WITH |DASIA AND VARIA|PSILI AND OXIA|DASIA AND OXIA",
    "1f26 GREEK SMALL LETTER ETA WITH |PSILI AND PERISPOMENI|DASIA AND PERISPOMENI",
    "1f28 GREEK CAPITAL LETTER ETA WITH |PSILI|DASIA|PSILI AND VARIA",
    "1f2b GREEK CAPITAL LETTER ETA WITH |DASIA AND VARIA|PSILI AND OXIA|DASIA AND OXIA",
    "1f2e GREEK CAPITAL LETTER ETA WITH |PSILI AND PERISPOMENI|DASIA AND PERISPOMENI",
    "1f30 GREEK SMALL LETTER IOTA WITH |PSILI|DASIA|PSILI AND VARIA",
    "1f33 GREEK SMALL LETTER IOTA WITH |DASIA AND VARIA|PSILI AND OXIA|DASIA AND OXIA",
    "1f36 GREEK SMALL LETTER IOTA WITH |PSILI AND PERISPOMENI|DASIA AND PERISPOMENI",
    "1f38 GREEK CAPITAL LETTER IOTA WITH |PSILI|DASIA|PSILI AND VARIA",
    "1f3b GREEK CAPITAL LETTER IOTA WITH |DASIA AND VARIA|PSILI AND OXIA|DASIA AND OXIA",
    "1f3e GREEK CAPITAL LETTER IOTA WITH |PSILI AND PERISPOMENI|DASIA AND PERISPOMENI",
    "1f40 GREEK SMALL LETTER OMICRON WITH |PSILI|DASIA|PSILI AND VARIA",
    "1f43 GREEK SMALL LETTER OMICRON WITH |DASIA AND VARIA|PSILI AND OXIA|DASIA AND OXIA",
    "1f48 GREEK CAPITAL LETTER OMICRON WITH |PSILI|DASIA|PSILI AND VARIA",
    "1f4b GREEK CAPITAL LETTER OMICRON WITH |DASIA AND VARIA|PSILI AND OXIA|DASIA AND OXIA",
    "1f50 GREEK SMALL LETTER UPSILON WITH |PSILI|DASIA|PSILI AND VARIA",
    "1f53 GREEK SMALL LETTER UPSILON WITH |DASIA AND VARIA|PSILI AND OXIA|DASIA AND OXIA",
    "1f56 GREEK SMALL LETTER UPSILON WITH |PSILI AND PERISPOMENI|DASIA AND PERISPOMENI",
    "1f59 |GREEK CAPITAL LETTER UPSILON WITH DASIA",
    "1f5b |GREEK CAPITAL LETTER UPSILON WITH DASIA AND VARIA",
    "1f5d |GREEK CAPITAL LETTER UPSILON WITH DASIA AND OXIA",
    "1f5f |GREEK CAPITAL LETTER UPSILON WITH DASIA AND PERISPOMENI",
    "1f60 GREEK SMALL LETTER OMEGA WITH |PSILI|DASIA|PSILI AND VARIA",
    "1f63 GREEK SMALL LETTER OMEGA WITH |DASIA AND VARIA|PSILI AND OXIA|DASIA AND OXIA",
    "1f66 GREEK SMALL LETTER OMEGA WITH |PSILI AND PERISPOMENI|DASIA AND PERISPOMENI",
    "1f68 GREEK CAPITAL LETTER OMEGA WITH |PSILI|DASIA|PSILI AND VARIA",
    "1f6b GREEK CAPITAL LETTER OMEGA WITH |DASIA AND VARIA|PSILI AND OXIA|DASIA AND OXIA",
    "1f6e GREEK CAPITAL LETTER OMEGA WITH |PSILI AND PERISPOMENI|DASIA AND PERISPOMENI",
    "1f70 GREEK SMALL LETTER ALPHA WITH |VARIA|OXIA",
    "1f72 GREEK SMALL LETTER EPSILON WITH |VARIA|OXIA",
    "1f74 GREEK SMALL LETTER |ETA WITH VARIA|ETA WITH OXIA|IOTA WITH VARIA|IOTA WITH OXIA",
    "1f78 GREEK SMALL LETTER OMICRON WITH |VARIA|OXIA",
    "1f7a GREEK SMALL LETTER UPSILON WITH |VARIA|OXIA",
    "1f7c GREEK SMALL LETTER OMEGA WITH |VARIA|OXIA",
    "1f80 GREEK SMALL LETTER ALPHA WITH |PSILI AND YPOGEGRAMMENI|DASIA AND YPOGEGRAMMENI",
    "1f82 |GREEK SMALL LETTER ALPHA WITH PSILI AND VARIA AND YPOGEGRAMMENI",
    "1f83 |GREEK SMALL LETTER ALPHA WITH DASIA AND VARIA AND YPOGEGRAMMENI",
    "1f84 |GREEK SMALL LETTER ALPHA WITH PSILI AND OXIA AND YPOGEGRAMMENI",
    "1f85 |GREEK SMALL LETTER ALPHA WITH DASIA AND OXIA AND YPOGEGRAMMENI",
    "1f86 |GREEK SMALL LETTER ALPHA WITH PSILI AND PERISPOMENI AND YPOGEGRAMMENI",
    "1f87 |GREEK SMALL LETTER ALPHA WITH DASIA AND PERISPOMENI AND YPOGEGRAMMENI",
    "1f88 GREEK CAPITAL LETTER ALPHA WITH |PSILI AND PROSGEGRAMMENI|DASIA AND PROSGEGRAMMENI",
    "1f8a |GREEK CAPITAL LETTER ALPHA WITH PSILI AND VARIA AND PROSGEGRAMMENI",
    "1f8b |GREEK CAPITAL LETTER ALPHA WITH DASIA AND VARIA AND PROSGEGRAMMENI",
    "1f8c |GREEK CAPITAL LETTER ALPHA WITH PSILI AND OXIA AND PROSGEGRAMMENI",
    "1f8d |GREEK CAPITAL LETTER ALPHA WITH DASIA AND OXIA AND PROSGEGRAMMENI",
    "1f8e |GREEK CAPITAL LETTER ALPHA WITH PSILI AND PERISPOMENI AND PROSGEGRAMMENI",
    "1f8f |GREEK CAPITAL LETTER ALPHA WITH DASIA AND PERISPOMENI AND PROSGEGRAMMENI",
    "1f90 |GREEK SMALL LETTER ETA WITH PSILI AND YPOGEGRAMMENI",
    "1f91 GREEK SMALL LETTER ETA WITH |DASIA AND YPOGEGRAMMENI|PSILI AND VARIA AND YPOGEGRAMMENI",
    "1f93 |GREEK SMALL LETTER ETA WITH DASIA AND VARIA AND YPOGEGRAMMENI",
    "1f94 |GREEK SMALL LETTER ETA WITH PSILI AND OXIA AND YPOGEGRAMMENI",
    "1f95 |GREEK SMALL LETTER ETA WITH DASIA AND OXIA AND YPOGEGRAMMENI",
    "1f96 |GREEK SMALL LETTER ETA WITH PSILI AND PERISPOMENI AND YPOGEGRAMMENI",
    "1f97 |GREEK SMALL LETTER ETA WITH DASIA AND PERISPOMENI AND YPOGEGRAMMENI",
    "1f98 GREEK CAPITAL LETTER ETA WITH |PSILI AND PROSGEGRAMMENI|DASIA AND PROSGEGRAMMENI",
    "1f9a |GREEK CAPITAL LETTER ETA WITH PSILI AND VARIA AND PROSGEGRAMMENI",
    "1f9b |GREEK CAPITAL LETTER ETA WITH DASIA AND VARIA AND PROSGEGRAMMENI",
    "1f9c |GREEK CAPITAL LETTER ETA WITH PSILI AND OXIA AND PROSGEGRAMMENI",
    "1f9d |GREEK CAPITAL LETTER ETA WITH DASIA AND OXIA AND PROSGEGRAMMENI",
    "1f9e |GREEK CAPITAL LETTER ETA WITH PSILI AND PERISPOMENI AND PROSGEGRAMMENI",
    "1f9f |GREEK CAPITAL LETTER ETA WITH DASIA AND PERISPOMENI AND PROSGEGRAMMENI",
    "1fa0 GREEK SMALL LETTER OMEGA WITH |PSILI AND YPOGEGRAMMENI|DASIA AND YPOGEGRAMMENI",
    "1fa2 |GREEK SMALL LETTER OMEGA WITH PSILI AND VARIA AND YPOGEGRAMMENI",
    "1fa3 |GREEK SMALL LETTER OMEGA WITH DASIA AND VARIA AND YPOGEGRAMMENI",
    "1fa4 |GREEK SMALL LETTER OMEGA WITH PSILI AND OXIA AND YPOGEGRAMMENI",
    "1fa5 |GREEK SMALL LETTER OMEGA WITH DASIA AND OXIA AND YPOGEGRAMMENI",
    "1fa6 |GREEK SMALL LETTER OMEGA WITH PSILI AND PERISPOMENI AND YPOGEGRAMMENI",
    "1fa7 |GREEK SMALL LETTER OMEGA WITH DASIA AND PERISPOMENI AND YPOGEGRAMMENI",
    "1fa8 GREEK CAPITAL LETTER OMEGA WITH |PSILI AND PROSGEGRAMMENI|DASIA AND PROSGEGRAMMENI",
    "1faa |GREEK CAPITAL LETTER OMEGA WITH PSILI AND VARIA AND PROSGEGRAMMENI",
    "1fab |GREEK CAPITAL LETTER OMEGA WITH DASIA AND VARIA AND PROSGEGRAMMENI",
    "1fac |GREEK CAPITAL LETTER OMEGA WITH PSILI AND OXIA AND PROSGEGRAMMENI",
    "1fad |GREEK CAPITAL LETTER OMEGA WITH DASIA AND OXIA AND PROSGEGRAMMENI",
    "1fae |GREEK CAPITAL LETTER OMEGA WITH PSILI AND PERISPOMENI AND PROSGEGRAMMENI",
    "1faf |GREEK CAPITAL LETTER OMEGA WITH DASIA AND PERISPOMENI AND PROSGEGRAMMENI",
    "1fb0 GREEK SMALL LETTER ALPHA WITH |VRACHY|MACRON|VARIA AND YPOGEGRAMMENI",
    "1fb3 GREEK SMALL LETTER ALPHA WITH |YPOGEGRAMMENI|OXIA AND YPOGEGRAMMENI",
    "1fb6 GREEK SMALL LETTER ALPHA WITH |PERISPOMENI|PERISPOMENI AND YPOGEGRAMMENI",
    "1fb8 GREEK CAPITAL LETTER ALPHA WITH |VRACHY|MACRON|VARIA|OXIA|PROSGEGRAMMENI",
    "1fbd GREEK |KORONIS|PROSGEGRAMMENI|PSILI|PERISPOMENI",
    "1fc1 GREEK |DIALYTIKA AND PERISPOMENI|SMALL LETTER ETA WITH VARIA AND YPOGEGRAMMENI",
    "1fc3 GREEK SMALL LETTER ETA WITH |YPOGEGRAMMENI|OXIA AND YPOGEGRAMMENI",
    "1fc6 GREEK SMALL LETTER ETA WITH |PERISPOMENI|PERISPOMENI AND YPOGEGRAMMENI",
    "1fc8 GREEK CAPITAL LETTER EPSILON WITH |VARIA|OXIA",
    "1fca GREEK CAPITAL LETTER ETA WITH |VARIA|OXIA|PROSGEGRAMMENI",
    "1fcd GREEK PSILI AND |VARIA|OXIA|PERISPOMENI",
    "1fd0 GREEK SMALL LETTER IOTA WITH |VRACHY|MACRON|DIALYTIKA AND VARIA|DIALYTIKA AND OXIA",
    "1fd6 GREEK SMALL LETTER IOTA WITH |PERISPOMENI|DIALYTIKA AND PERISPOMENI",
    "1fd8 GREEK CAPITAL LETTER IOTA WITH |VRACHY|MACRON|VARIA|OXIA",
    "1fdd GREEK DASIA AND |VARIA|OXIA|PERISPOMENI",
    "1fe0 GREEK SMALL LETTER UPSILON WITH |VRACHY|MACRON|DIALYTIKA AND VARIA|DIALYTIKA AND OXIA",
    "1fe4 GREEK SMALL LETTER RHO WITH |PSILI|DASIA",
    "1fe6 GREEK SMALL LETTER UPSILON WITH |PERISPOMENI|DIALYTIKA AND PERISPOMENI",
    "1fe8 GREEK CAPITAL LETTER UPSILON WITH |VRACHY|MACRON|VARIA|OXIA",
    "1fec GREEK |CAPITAL LETTER RHO WITH DASIA|DIALYTIKA AND VARIA|DIALYTIKA AND OXIA|VARIA",
    "1ff2 |GREEK SMALL LETTER OMEGA WITH VARIA AND YPOGEGRAMMENI",
    "1ff3 GREEK SMALL LETTER OMEGA WITH |YPOGEGRAMMENI|OXIA AND YPOGEGRAMMENI",
    "1ff6 GREEK SMALL LETTER OMEGA WITH |PERISPOMENI|PERISPOMENI AND YPOGEGRAMMENI",
    "1ff8 GREEK CAPITAL LETTER OMICRON WITH |VARIA|OXIA",
    "1ffa GREEK CAPITAL LETTER OMEGA WITH |VARIA|OXIA|PROSGEGRAMMENI",
    "1ffd GREEK |OXIA|DASIA"]

end Name
end Text
end DebugIndex
