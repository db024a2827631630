/-!
# The names of numbers of many peoples, games, emblems, faces and tags

The names that Unicode 14 gives to the code points from U+1E000 to U+E01EF.  A row
begins with its first code point and what its names have in common; the endings
of the names of that point and those behind it follow, each after a bar.
-/

namespace DebugIndex
namespace Text
namespace Name

/-- The rows of the table, in ascending order. -/
def emblemsRows : List String :=
  ["1e000 COMBINING GLAGOLITIC LETTER |AZU|BUKY|VEDE|GLAGOLI|DOBRO|YESTU|ZHIVETE",
    "1e008 COMBINING GLAGOLITIC LETTER |ZEMLJA|IZHE|INITIAL IZHE|I|DJERVI|KAKO|LJUDIJE|MYSLITE",
    "1e010 COMBINING GLAGOLITIC LETTER |NASHI|ONU|POKOJI|RITSI|SLOVO|TVRIDO|UKU|FRITU|HERU",
    "1e01b COMBINING GLAGOLITIC LETTER |SHTA|TSI|CHRIVI|SHA|YERU|YERI|YATI",
    "1e023 COMBINING GLAGOLITIC LETTER |YU|SMALL YUS",
    "1e026 COMBINING GLAGOLITIC LETTER |YO|IOTATED SMALL YUS|BIG YUS|IOTATED BIG YUS|FITA",
    "1e100 NYIAKENG PUACHUE HMONG LETTER |MA|TSA|NTA|TA|HA|NA|XA|NKA|CA|LA|SA|ZA|NCA",
    "1e10d NYIAKENG PUACHUE HMONG LETTER |NTSA|KA|DA|NYA|NRA|VA|NTXA|TXA|FA|RA|QA|YA|NQA|PA|XYA",
    "1e11c NYIAKENG PUACHUE HMONG LETTER |NPA|DLA|NPLA|HAH|MLA|PLA|GA|RRA|A|AA|I|U|O|OO|E|EE|W",
    "1e130 NYIAKENG PUACHUE HMONG |TONE-B|TONE-M|TONE-J|TONE-V|TONE-S|TONE-G|TONE-D",
    "1e137 NYIAKENG PUACHUE HMONG SIGN FOR |PERSON|THING|LOCATION|ANIMAL|INVERTEBRATE",
    "1e13c NYIAKENG PUACHUE HMONG |SIGN XW XW|SYLLABLE LENGTHENER",
    "1e140 NYIAKENG PUACHUE HMONG DIGIT |ZERO|ONE|TWO|THREE|FOUR|FIVE|SIX|SEVEN|EIGHT|NINE",
    "1e14e NYIAKENG PUACHUE HMONG |LOGOGRAM NYAJ|CIRCLED CA",
    "1e290 TOTO LETTER |PA|BA|TA|DA|KA|GA|MA|NA|NGA|SA|CHA|YA|WA|JA|HA|RA|LA",
    "1e2a1 TOTO LETTER |I|BREATHY I|IU|BREATHY IU|U|E|BREATHY E|EO|BREATHY EO|O|AE|BREATHY AE|A",
    "1e2ae |TOTO SIGN RISING TONE",
    "1e2c0 WANCHO LETTER |AA|A|BA|CA|DA|GA|YA|PHA|LA|NA|PA|TA|THA|FA|SA|SHA|JA|ZA|WA|VA|KA|O|AU",
    "1e2d7 WANCHO LETTER |RA|MA|KHA|HA|E|I|NGA|U|LLHA|TSA|TRA|ONG|AANG|ANG|ING|ON|EN|AAN|NYA|UEN",
    "1e2eb WANCHO |LETTER YIH|TONE TUP|TONE TUPNI|TONE KOI|TONE KOINI",
    "1e2f0 WANCHO DIGIT |ZERO|ONE|TWO|THREE|FOUR|FIVE|SIX|SEVEN|EIGHT|NINE",
    "1e2ff |WANCHO NGUN SIGN",
    "1e7e0 ETHIOPIC SYLLABLE |HHYA|HHYU|HHYI|HHYAA|HHYEE|HHYE|HHYO",
    "1e7e8 ETHIOPIC SYLLABLE |GURAGE HHWA|HHWI|HHWEE|HHWE",
    "1e7ed ETHIOPIC SYLLABLE GURAGE |MWI|MWEE",
    "1e7f0 ETHIOPIC SYLLABLE GURAGE |QWI|QWEE",
    "1e7f2 ETHIOPIC SYLLABLE GURAGE |QWE|BWI|BWEE|KWI|KWEE|KWE|GWI|GWEE|GWE|FWI|FWEE|PWI|PWEE",
    "1e800 |MENDE KIKAKUI SYLLABLE M001 KI",
    "1e801 MENDE KIKAKUI SYLLABLE |M002 KA|M003 KU|M065 KEE|M095 KE|M076 KOO|M048 KO|M179 KUA",
    "1e808 MENDE KIKAKUI SYLLABLE |M004 WI|M005 WA|M006 WU|M126 WEE|M118 WE|M114 WOO|M045 WO",
    "1e80f MENDE KIKAKUI SYLLABLE |M194 WUI|M143 WEI|M061 WVI|M049 WVA|M139 WVE|M007 MIN|M008 MAN",
    "1e816 MENDE KIKAKUI SYLLABLE |M009 MUN|M059 MEN|M094 MON|M154 MUAN|M189 MUEN|M010 BI",
    "1e81c MENDE KIKAKUI SYLLABLE |M011 BA|M012 BU|M150 BEE|M097 BE|M103 BOO|M138 BO|M013 I",
    "1e823 MENDE KIKAKUI SYLLABLE |M014 A|M015 U|M163 EE|M100 E|M165 OO|M147 O|M137 EI|M131 IN",
    "1e82b MENDE KIKAKUI SYLLABLE |M135 IN|M195 AN|M178 EN|M019 SI|M020 SA|M021 SU|M162 SEE",
    "1e832 MENDE KIKAKUI SYLLABLE |M116 SE|M136 SOO|M079 SO|M196 SIA|M025 LI|M026 LA|M027 LU",
    "1e839 MENDE KIKAKUI SYLLABLE |M084 LEE|M073 LE|M054 LOO|M153 LO|M110 LONG LE|M016 DI|M017 DA",
    "1e840 MENDE KIKAKUI SYLLABLE |M018 DU|M089 DEE|M180 DOO|M181 DO|M022 TI|M023 TA|M024 TU",
    "1e847 MENDE KIKAKUI SYLLABLE |M091 TEE|M055 TE|M104 TOO|M069 TO|M028 JI|M029 JA|M030 JU",
    "1e84e MENDE KIKAKUI SYLLABLE |M157 JEE|M113 JE|M160 JOO|M063 JO|M175 LONG JO|M031 YI|M032 YA",
    "1e855 MENDE KIKAKUI SYLLABLE |M033 YU|M109 YEE|M080 YE|M141 YOO|M121 YO|M034 FI|M035 FA",
    "1e85c MENDE KIKAKUI SYLLABLE |M036 FU|M078 FEE|M075 FE|M133 FOO|M088 FO|M197 FUA|M101 FAN",
    "1e863 MENDE KIKAKUI SYLLABLE |M037 NIN|M038 NAN|M039 NUN|M117 NEN|M169 NON|M176 HI|M041 HA",
    "1e86a MENDE KIKAKUI SYLLABLE |M186 HU|M040 HEE|M096 HE|M042 HOO|M140 HO|M083 HEEI|M128 HOOU",
    "1e871 MENDE KIKAKUI SYLLABLE |M053 HIN|M130 HAN|M087 HUN|M052 HEN|M193 HON|M046 HUAN",
    "1e877 MENDE KIKAKUI SYLLABLE |M090 NGGI|M043 NGGA|M082 NGGU|M115 NGGEE|M146 NGGE|M156 NGGOO",
    "1e87d MENDE KIKAKUI SYLLABLE |M120 NGGO|M159 NGGAA|M127 NGGUA|M086 LONG NGGE|M106 LONG NGGOO",
    "1e882 MENDE KIKAKUI SYLLABLE |M183 LONG NGGO|M155 GI|M111 GA|M168 GU|M190 GEE|M166 GUEI",
    "1e888 MENDE KIKAKUI SYLLABLE |M167 GUAN|M184 NGEN|M057 NGON|M177 NGUAN|M068 PI|M099 PA",
    "1e88e MENDE KIKAKUI SYLLABLE |M050 PU|M081 PEE|M051 PE|M102 POO|M066 PO|M145 MBI|M062 MBA",
    "1e895 MENDE KIKAKUI SYLLABLE |M122 MBU|M047 MBEE|M188 MBEE|M072 MBE|M172 MBOO|M174 MBO",
    "1e89b MENDE KIKAKUI SYLLABLE |M187 MBUU|M161 LONG MBE|M105 LONG MBOO|M142 LONG MBO|M132 KPI",
    "1e8a0 MENDE KIKAKUI SYLLABLE |M092 KPA|M074 KPU|M044 KPEE|M108 KPE|M112 KPOO|M158 KPO",
    "1e8a6 MENDE KIKAKUI SYLLABLE |M124 GBI|M056 GBA|M148 GBU|M093 GBEE|M107 GBE|M071 GBOO",
    "1e8ac MENDE KIKAKUI SYLLABLE |M070 GBO|M171 RA|M123 NDI|M129 NDA|M125 NDU|M191 NDEE",
    "1e8b2 MENDE KIKAKUI SYLLABLE |M119 NDE|M067 NDOO|M064 NDO|M152 NJA|M192 NJU|M149 NJEE",
    "1e8b8 MENDE KIKAKUI SYLLABLE |M134 NJOO|M182 VI|M185 VA|M151 VU|M173 VEE|M085 VE|M144 VOO",
    "1e8bf MENDE KIKAKUI SYLLABLE |M077 VO|M164 NYIN|M058 NYAN|M170 NYUN|M098 NYEN|M060 NYON",
    "1e8c7 MENDE KIKAKUI DIGIT |ONE|TWO|THREE|FOUR|FIVE|SIX|SEVEN|EIGHT|NINE",
    "1e8d0 MENDE KIKAKUI COMBINING NUMBER |TEENS|TENS|HUNDREDS",
    "1e8d3 MENDE KIKAKUI COMBINING NUMBER |THOUSANDS|TEN THOUSANDS|HUNDRED THOUSANDS|MILLIONS",
    "1e900 |ADLAM CAPITAL LETTER ALIF",
    "1e901 ADLAM CAPITAL LETTER |DAALI|LAAM|MIIM|BA|SINNYIIYHE|PE|BHE|RA|E|FA|I|O|DHA|YHE|WAW|NUN",
    "1e911 ADLAM CAPITAL LETTER |KAF|YA|U|JIIM|CHI|HA|QAAF|GA|NYA|TU|NHA|VA|KHA|GBE|ZAL|KPO|SHA",
    "1e922 ADLAM SMALL LETTER |ALIF|DAALI|LAAM|MIIM|BA|SINNYIIYHE|PE|BHE|RA|E|FA|I|O|DHA|YHE|WAW",
    "1e932 ADLAM SMALL LETTER |NUN|KAF|YA|U|JIIM|CHI|HA|QAAF|GA|NYA|TU|NHA|VA|KHA|GBE|ZAL|KPO|SHA",
    "1e944 ADLAM |ALIF LENGTHENER|VOWEL LENGTHENER|GEMINATION MARK",
    "1e947 ADLAM |HAMZA|CONSONANT MODIFIER|GEMINATE CONSONANT MODIFIER|NUKTA|NASALIZATION MARK",
    "1e950 ADLAM DIGIT |ZERO|ONE|TWO|THREE|FOUR|FIVE|SIX|SEVEN|EIGHT|NINE",
    "1e95e ADLAM INITIAL |EXCLAMATION MARK|QUESTION MARK",
    "1ec71 INDIC SIYAQ NUMBER |ONE|TWO|THREE|FOUR|FIVE|SIX|SEVEN|EIGHT|NINE|TEN",
    "1ec7b INDIC SIYAQ NUMBER |TWENTY|THIRTY|FORTY|FIFTY|SIXTY|SEVENTY|EIGHTY|NINETY|ONE HUNDRED",
    "1ec84 INDIC SIYAQ NUMBER |TWO HUNDRED|THREE HUNDRED|FOUR HUNDRED|FIVE HUNDRED|SIX HUNDRED",
    "1ec89 INDIC SIYAQ NUMBER |SEVEN HUNDRED|EIGHT HUNDRED|NINE HUNDRED|ONE THOUSAND|TWO THOUSAND",
    "1ec8e INDIC SIYAQ NUMBER |THREE THOUSAND|FOUR THOUSAND|FIVE THOUSAND|SIX THOUSAND",
    "1ec92 INDIC SIYAQ NUMBER |SEVEN THOUSAND|EIGHT THOUSAND|NINE THOUSAND|TEN THOUSAND",
    "1ec96 INDIC SIYAQ NUMBER |TWENTY THOUSAND|THIRTY THOUSAND|FORTY THOUSAND|FIFTY THOUSAND",
    "1ec9a INDIC SIYAQ NUMBER |SIXTY THOUSAND|SEVENTY THOUSAND|EIGHTY THOUSAND|NINETY THOUSAND",
    "1ec9e INDIC SIYAQ |NUMBER LAKH|NUMBER LAKHAN|LAKH MARK|NUMBER KAROR|NUMBER KARORAN",
    "1eca3 INDIC SIYAQ NUMBER PREFIXED |ONE|TWO|THREE|FOUR|FIVE|SIX|SEVEN|EIGHT|NINE",
    "1ecac |INDIC SIYAQ PLACEHOLDER",
    "1ecad INDIC SIYAQ |FRACTION ONE QUARTER|FRACTION ONE HALF|FRACTION THREE QUARTERS|RUPEE MARK",
    "1ecb1 INDIC SIYAQ NUMBER ALTERNATE |ONE|TWO|TEN THOUSAND",
    "1ecb4 |INDIC SIYAQ ALTERNATE LAKH MARK",
    "1ed01 OTTOMAN SIYAQ NUMBER |ONE|TWO|THREE|FOUR|FIVE|SIX|SEVEN|EIGHT|NINE|TEN|TWENTY",
    "1ed0c OTTOMAN SIYAQ NUMBER |THIRTY|FORTY|FIFTY|SIXTY|SEVENTY|EIGHTY|NINETY|ONE HUNDRED",
    "1ed14 OTTOMAN SIYAQ NUMBER |TWO HUNDRED|THREE HUNDRED|FOUR HUNDRED|FIVE HUNDRED|SIX HUNDRED",
    "1ed19 OTTOMAN SIYAQ NUMBER |SEVEN HUNDRED|EIGHT HUNDRED|NINE HUNDRED|ONE THOUSAND",
    "1ed1d OTTOMAN SIYAQ NUMBER |TWO THOUSAND|THREE THOUSAND|FOUR THOUSAND|FIVE THOUSAND",
    "1ed21 OTTOMAN SIYAQ NUMBER |SIX THOUSAND|SEVEN THOUSAND|EIGHT THOUSAND|NINE THOUSAND",
    "1ed25 OTTOMAN SIYAQ NUMBER |TEN THOUSAND|TWENTY THOUSAND|THIRTY THOUSAND|FORTY THOUSAND",
    "1ed29 OTTOMAN SIYAQ NUMBER |FIFTY THOUSAND|SIXTY THOUSAND|SEVENTY THOUSAND|EIGHTY THOUSAND",
    "1ed2d OTTOMAN SIYAQ |NUMBER NINETY THOUSAND|MARRATAN",
    "1ed2f OTTOMAN SIYAQ ALTERNATE NUMBER |TWO|THREE|FOUR|FIVE|SIX|SEVEN|EIGHT|NINE",
    "1ed37 OTTOMAN SIYAQ ALTERNATE NUMBER |TEN|FOUR HUNDRED|SIX HUNDRED|TWO THOUSAND|TEN THOUSAND",
    "1ed3c OTTOMAN SIYAQ FRACTION ONE |HALF|SIXTH",
    "1ee00 ARABIC MATHEMATICAL |ALEF|BEH|JEEM|DAL",
    "1ee05 ARABIC MATHEMATICAL |WAW|ZAIN|HAH|TAH|YEH|KAF|LAM|MEEM|NOON",
    "1ee0e ARABIC MATHEMATICAL |SEEN|AIN|FEH|SAD|QAF|REH|SHEEN|TEH|THEH|KHAH|THAL|DAD|ZAH|GHAIN",
    "1ee1c ARABIC MATHEMATICAL DOTLESS |BEH|NOON|FEH|QAF",
    "1ee21 ARABIC MATHEMATICAL INITIAL |BEH|JEEM",
    "1ee24 |ARABIC MATHEMATICAL INITIAL HEH",
    "1ee27 |ARABIC MATHEMATICAL INITIAL HAH",
    "1ee29 ARABIC MATHEMATICAL INITIAL |YEH|KAF|LAM|MEEM|NOON|SEEN|AIN|FEH|SAD|QAF",
    "1ee34 ARABIC MATHEMATICAL INITIAL |SHEEN|TEH|THEH|KHAH",
    "1ee39 |ARABIC MATHEMATICAL INITIAL DAD",
    "1ee3b |ARABIC MATHEMATICAL INITIAL GHAIN",
    "1ee42 |ARABIC MATHEMATICAL TAILED JEEM",
    "1ee47 |ARABIC MATHEMATICAL TAILED HAH",
    "1ee49 |ARABIC MATHEMATICAL TAILED YEH",
    "1ee4b |ARABIC MATHEMATICAL TAILED LAM",
    "1ee4d ARABIC MATHEMATICAL TAILED |NOON|SEEN|AIN",
    "1ee51 ARABIC MATHEMATICAL TAILED |SAD|QAF",
    "1ee54 |ARABIC MATHEMATICAL TAILED SHEEN",
    "1ee57 |ARABIC MATHEMATICAL TAILED KHAH",
    "1ee59 |ARABIC MATHEMATICAL TAILED DAD",
    "1ee5b |ARABIC MATHEMATICAL TAILED GHAIN",
    "1ee5d |ARABIC MATHEMATICAL TAILED DOTLESS NOON",
    "1ee5f |ARABIC MATHEMATICAL TAILED DOTLESS QAF",
    "1ee61 ARABIC MATHEMATICAL STRETCHED |BEH|JEEM",
    "1ee64 |ARABIC MATHEMATICAL STRETCHED HEH",
    "1ee67 ARABIC MATHEMATICAL STRETCHED |HAH|TAH|YEH|KAF",
    "1ee6c ARABIC MATHEMATICAL STRETCHED |MEEM|NOON|SEEN|AIN|FEH|SAD|QAF",
    "1ee74 ARABIC MATHEMATICAL STRETCHED |SHEEN|TEH|THEH|KHAH",
    "1ee79 ARABIC MATHEMATICAL STRETCHED |DAD|ZAH|GHAIN|DOTLESS BEH",
    "1ee7e |ARABIC MATHEMATICAL STRETCHED DOTLESS FEH",
    "1ee80 ARABIC MATHEMATICAL LOOPED |ALEF|BEH|JEEM|DAL|HEH|WAW|ZAIN|HAH|TAH|YEH",
    "1ee8b ARABIC MATHEMATICAL LOOPED |LAM|MEEM|NOON|SEEN",
    "1ee8f ARABIC MATHEMATICAL LOOPED |AIN|FEH|SAD|QAF|REH|SHEEN|TEH|THEH|KHAH|THAL|DAD|ZAH|GHAIN",
    "1eea1 ARABIC MATHEMATICAL DOUBLE-STRUCK |BEH|JEEM|DAL",
    "1eea5 ARABIC MATHEMATICAL DOUBLE-STRUCK |WAW|ZAIN|HAH|TAH|YEH",
    "1eeab ARABIC MATHEMATICAL DOUBLE-STRUCK |LAM|MEEM|NOON|SEEN|AIN|FEH",
    "1eeb1 ARABIC MATHEMATICAL DOUBLE-STRUCK |SAD|QAF|REH|SHEEN|TEH|THEH|KHAH|THAL|DAD|ZAH|GHAIN",
    "1eef0 ARABIC MATHEMATICAL OPERATOR |MEEM WITH HAH WITH TATWEEL|HAH WITH DAL",
    "1f000 MAHJONG TILE |EAST WIND|SOUTH WIND|WEST WIND",
    "1f003 MAHJONG TILE |NORTH WIND|RED DRAGON|GREEN DRAGON|WHITE DRAGON|ONE OF CHARACTERS",
    "1f008 MAHJONG TILE |TWO OF CHARACTERS|THREE OF CHARACTERS|FOUR OF CHARACTERS",
    "1f00b MAHJONG TILE |FIVE OF CHARACTERS|SIX OF CHARACTERS|SEVEN OF CHARACTERS",
    "1f00e MAHJONG TILE |EIGHT OF CHARACTERS|NINE OF CHARACTERS|ONE OF BAMBOOS|TWO OF BAMBOOS",
    "1f012 MAHJONG TILE |THREE OF BAMBOOS|FOUR OF BAMBOOS|FIVE OF BAMBOOS|SIX OF BAMBOOS",
    "1f016 MAHJONG TILE |SEVEN OF BAMBOOS|EIGHT OF BAMBOOS|NINE OF BAMBOOS|ONE OF CIRCLES",
    "1f01a MAHJONG TILE |TWO OF CIRCLES|THREE OF CIRCLES|FOUR OF CIRCLES|FIVE OF CIRCLES",
    "1f01e MAHJONG TILE |SIX OF CIRCLES|SEVEN OF CIRCLES|EIGHT OF CIRCLES|NINE OF CIRCLES",
    "1f022 MAHJONG TILE |PLUM|ORCHID|BAMBOO|CHRYSANTHEMUM|SPRING|SUMMER|AUTUMN|WINTER|JOKER|BACK",
    "1f030 DOMINO TILE |HORIZONTAL BACK|HORIZONTAL-00-00|HORIZONTAL-00-01|HORIZONTAL-00-02",
    "1f034 DOMINO TILE |HORIZONTAL-00-03|HORIZONTAL-00-04|HORIZONTAL-00-05|HORIZONTAL-00-06",
    "1f038 DOMINO TILE |HORIZONTAL-01-00|HORIZONTAL-01-01|HORIZONTAL-01-02|HORIZONTAL-01-03",
    "1f03c DOMINO TILE |HORIZONTAL-01-04|HORIZONTAL-01-05|HORIZONTAL-01-06|HORIZONTAL-02-00",
    "1f040 DOMINO TILE |HORIZONTAL-02-01|HORIZONTAL-02-02|HORIZONTAL-02-03|HORIZONTAL-02-04",
    "1f044 DOMINO TILE |HORIZONTAL-02-05|HORIZONTAL-02-06|HORIZONTAL-03-00|HORIZONTAL-03-01",
    "1f048 DOMINO TILE |HORIZONTAL-03-02|HORIZONTAL-03-03|HORIZONTAL-03-04|HORIZONTAL-03-05",
    "1f04c DOMINO TILE |HORIZONTAL-03-06|HORIZONTAL-04-00|HORIZONTAL-04-01|HORIZONTAL-04-02",
    "1f050 DOMINO TILE |HORIZONTAL-04-03|HORIZONTAL-04-04|HORIZONTAL-04-05|HORIZONTAL-04-06",
    "1f054 DOMINO TILE |HORIZONTAL-05-00|HORIZONTAL-05-01|HORIZONTAL-05-02|HORIZONTAL-05-03",
    "1f058 DOMINO TILE |HORIZONTAL-05-04|HORIZONTAL-05-05|HORIZONTAL-05-06|HORIZONTAL-06-00",
    "1f05c DOMINO TILE |HORIZONTAL-06-01|HORIZONTAL-06-02|HORIZONTAL-06-03|HORIZONTAL-06-04",
    "1f060 DOMINO TILE |HORIZONTAL-06-05|HORIZONTAL-06-06|VERTICAL BACK|VERTICAL-00-00",
    "1f064 DOMINO TILE |VERTICAL-00-01|VERTICAL-00-02|VERTICAL-00-03|VERTICAL-00-04",
    "1f068 DOMINO TILE |VERTICAL-00-05|VERTICAL-00-06|VERTICAL-01-00|VERTICAL-01-01",
    "1f06c DOMINO TILE |VERTICAL-01-02|VERTICAL-01-03|VERTICAL-01-04|VERTICAL-01-05",
    "1f070 DOMINO TILE |VERTICAL-01-06|VERTICAL-02-00|VERTICAL-02-01|VERTICAL-02-02",
    "1f074 DOMINO TILE |VERTICAL-02-03|VERTICAL-02-04|VERTICAL-02-05|VERTICAL-02-06",
    "1f078 DOMINO TILE |VERTICAL-03-00|VERTICAL-03-01|VERTICAL-03-02|VERTICAL-03-03",
    "1f07c DOMINO TILE |VERTICAL-03-04|VERTICAL-03-05|VERTICAL-03-06|VERTICAL-04-00",
    "1f080 DOMINO TILE |VERTICAL-04-01|VERTICAL-04-02|VERTICAL-04-03|VERTICAL-04-04",
    "1f084 DOMINO TILE |VERTICAL-04-05|VERTICAL-04-06|VERTICAL-05-00|VERTICAL-05-01",
    "1f088 DOMINO TILE |VERTICAL-05-02|VERTICAL-05-03|VERTICAL-05-04|VERTICAL-05-05",
    "1f08c DOMINO TILE |VERTICAL-05-06|VERTICAL-06-00|VERTICAL-06-01|VERTICAL-06-02",
    "1f090 DOMINO TILE |VERTICAL-06-03|VERTICAL-06-04|VERTICAL-06-05|VERTICAL-06-06",
    "1f0a0 PLAYING CARD |BACK|ACE OF SPADES|TWO OF SPADES",
    "1f0a3 PLAYING CARD |THREE OF SPADES|FOUR OF SPADES|FIVE OF SPADES|SIX OF SPADES",
    "1f0a7 PLAYING CARD |SEVEN OF SPADES|EIGHT OF SPADES|NINE OF SPADES|TEN OF SPADES",
    "1f0ab PLAYING CARD |JACK OF SPADES|KNIGHT OF SPADES|QUEEN OF SPADES|KING OF SPADES",
    "1f0b1 PLAYING CARD |ACE OF HEARTS|TWO OF HEARTS",
    "1f0b3 PLAYING CARD |THREE OF HEARTS|FOUR OF HEARTS|FIVE OF HEARTS|SIX OF HEARTS",
    "1f0b7 PLAYING CARD |SEVEN OF HEARTS|EIGHT OF HEARTS|NINE OF HEARTS|TEN OF HEARTS",
    "1f0bb PLAYING CARD |JACK OF HEARTS|KNIGHT OF HEARTS|QUEEN OF HEARTS|KING OF HEARTS|RED JOKER",
    "1f0c1 PLAYING CARD |ACE OF DIAMONDS|TWO OF DIAMONDS|THREE OF DIAMONDS",
    "1f0c4 PLAYING CARD |FOUR OF DIAMONDS|FIVE OF DIAMONDS|SIX OF DIAMONDS|SEVEN OF DIAMONDS",
    "1f0c8 PLAYING CARD |EIGHT OF DIAMONDS|NINE OF DIAMONDS|TEN OF DIAMONDS|JACK OF DIAMONDS",
    "1f0cc PLAYING CARD |KNIGHT OF DIAMONDS|QUEEN OF DIAMONDS|KING OF DIAMONDS|BLACK JOKER",
    "1f0d1 PLAYING CARD |ACE OF CLUBS|TWO OF CLUBS|THREE OF CLUBS",
    "1f0d4 PLAYING CARD |FOUR OF CLUBS|FIVE OF CLUBS|SIX OF CLUBS|SEVEN OF CLUBS|EIGHT OF CLUBS",
    "1f0d9 PLAYING CARD |NINE OF CLUBS|TEN OF CLUBS|JACK OF CLUBS|KNIGHT OF CLUBS|QUEEN OF CLUBS",
    "1f0de PLAYING CARD |KING OF CLUBS|WHITE JOKER|FOOL|TRUMP-1|TRUMP-2|TRUMP-3|TRUMP-4|TRUMP-5",
    "1f0e6 PLAYING CARD |TRUMP-6|TRUMP-7|TRUMP-8|TRUMP-9|TRUMP-10|TRUMP-11|TRUMP-12|TRUMP-13",
    "1f0ee PLAYING CARD |TRUMP-14|TRUMP-15|TRUMP-16|TRUMP-17|TRUMP-18|TRUMP-19|TRUMP-20|TRUMP-21",
    "1f100 DIGIT |ZERO FULL STOP|ZERO COMMA|ONE COMMA|TWO COMMA",
    "1f104 DIGIT |THREE COMMA|FOUR COMMA|FIVE COMMA|SIX COMMA|SEVEN COMMA|EIGHT COMMA|NINE COMMA",
    "1f10b DINGBAT |CIRCLED SANS-SERIF DIGIT ZERO|NEGATIVE CIRCLED SANS-SERIF DIGIT ZERO",
    "1f10d CIRCLED |ZERO WITH SLASH|ANTICLOCKWISE ARROW|DOLLAR SIGN WITH OVERLAID BACKSLASH",
    "1f110 PARENTHESIZED LATIN CAPITAL LETTER |A|B|C|D|E|F|G|H|I|J|K|L|M|N|O|P|Q|R|S|T|U|V|W|X|Y",
    "1f129 |PARENTHESIZED LATIN CAPITAL LETTER Z|TORTOISE SHELL BRACKETED LATIN CAPITAL LETTER S",
    "1f12b CIRCLED ITALIC LATIN CAPITAL LETTER |C|R",
    "1f12d |CIRCLED CD|CIRCLED WZ|COPYLEFT SYMBOL",
    "1f130 SQUARED LATIN CAPITAL LETTER |A|B|C|D|E|F|G|H|I|J|K|L|M|N|O|P|Q|R|S|T|U|V|W|X|Y|Z",
    "1f14a SQUARED |HV|MV|SD|SS|PPV|WC",
    "1f150 NEGATIVE CIRCLED LATIN CAPITAL LETTER |A|B",
    "1f152 NEGATIVE CIRCLED LATIN CAPITAL LETTER |C|D|E|F|G|H|I|J|K|L|M|N|O|P|Q|R|S|T|U|V|W|X|Y|Z",
    "1f16a RAISED |MC SIGN|MD SIGN|MR SIGN",
    "1f16d CIRCLED |CC|C WITH OVERLAID BACKSLASH|HUMAN FIGURE",
    "1f170 NEGATIVE SQUARED LATIN CAPITAL LETTER |A|B",
    "1f172 NEGATIVE SQUARED LATIN CAPITAL LETTER |C|D|E|F|G|H|I|J|K|L|M|N|O|P|Q|R|S|T|U|V|W|X|Y|Z",
    "1f18a |CROSSED NEGATIVE SQUARED LATIN CAPITAL LETTER P",
    "1f18b NEGATIVE SQUARED |IC|PA|SA|AB|WC",
    "1f190 |SQUARE DJ|SQUARED CL|SQUARED COOL",
    "1f193 SQUARED |FREE|ID|NEW|NG|OK|SOS|UP WITH EXCLAMATION MARK|VS|THREE D|SECOND SCREEN|TWO K",
    "1f19e SQUARED |FOUR K|EIGHT K|FIVE POINT ONE|SEVEN POINT ONE|TWENTY-TWO POINT TWO|SIXTY P",
    "1f1a4 SQUARED |ONE HUNDRED TWENTY P|LATIN SMALL LETTER D|HC|HDR|HI-RES|LOSSLESS|SHV|UHD|VOD",
    "1f1ad |MASK WORK SYMBOL",
    "1f1e6 REGIONAL INDICATOR SYMBOL LETTER |A|B|C|D|E|F|G|H|I|J|K|L|M|N|O|P|Q|R|S|T|U|V|W|X|Y|Z",
    "1f200 |SQUARE HIRAGANA HOKA",
    "1f201 SQUARED KATAKANA |KOKO|SA",
    "1f210 SQUARED CJK UNIFIED |IDEOGRAPH-624B|IDEOGRAPH-5B57|IDEOGRAPH-53CC",
    "1f213 |SQUARED KATAKANA DE",
    "1f214 SQUARED CJK UNIFIED |IDEOGRAPH-4E8C|IDEOGRAPH-591A|IDEOGRAPH-89E3|IDEOGRAPH-5929",
    "1f218 SQUARED CJK UNIFIED |IDEOGRAPH-4EA4|IDEOGRAPH-6620|IDEOGRAPH-7121|IDEOGRAPH-6599",
    "1f21c SQUARED CJK UNIFIED |IDEOGRAPH-524D|IDEOGRAPH-5F8C|IDEOGRAPH-518D|IDEOGRAPH-65B0",
    "1f220 SQUARED CJK UNIFIED |IDEOGRAPH-521D|IDEOGRAPH-7D42|IDEOGRAPH-751F|IDEOGRAPH-8CA9",
    "1f224 SQUARED CJK UNIFIED |IDEOGRAPH-58F0|IDEOGRAPH-5439|IDEOGRAPH-6F14|IDEOGRAPH-6295",
    "1f228 SQUARED CJK UNIFIED |IDEOGRAPH-6355|IDEOGRAPH-4E00|IDEOGRAPH-4E09|IDEOGRAPH-904A",
    "1f22c SQUARED CJK UNIFIED |IDEOGRAPH-5DE6|IDEOGRAPH-4E2D|IDEOGRAPH-53F3|IDEOGRAPH-6307",
    "1f230 SQUARED CJK UNIFIED |IDEOGRAPH-8D70|IDEOGRAPH-6253|IDEOGRAPH-7981|IDEOGRAPH-7A7A",
    "1f234 SQUARED CJK UNIFIED |IDEOGRAPH-5408|IDEOGRAPH-6E80|IDEOGRAPH-6709|IDEOGRAPH-6708",
    "1f238 SQUARED CJK UNIFIED |IDEOGRAPH-7533|IDEOGRAPH-5272|IDEOGRAPH-55B6|IDEOGRAPH-914D",
    "1f240 TORTOISE SHELL BRACKETED CJK UNIFIED |IDEOGRAPH-672C|IDEOGRAPH-4E09|IDEOGRAPH-4E8C",
    "1f243 TORTOISE SHELL BRACKETED CJK UNIFIED |IDEOGRAPH-5B89|IDEOGRAPH-70B9|IDEOGRAPH-6253",
    "1f246 TORTOISE SHELL BRACKETED CJK UNIFIED |IDEOGRAPH-76D7|IDEOGRAPH-52DD|IDEOGRAPH-6557",
    "1f250 CIRCLED IDEOGRAPH |ADVANTAGE|ACCEPT",
    "1f260 ROUNDED SYMBOL FOR |FU|LU|SHOU|XI|SHUANGXI|CAI",
    "1f300 |CYCLONE|FOGGY",
    "1f302 |CLOSED UMBRELLA|NIGHT WITH STARS|SUNRISE OVER MOUNTAINS|SUNRISE|CITYSCAPE AT DUSK",
    "1f307 |SUNSET OVER BUILDINGS|RAINBOW|BRIDGE AT NIGHT|WATER WAVE|VOLCANO|MILKY WAY",
    "1f30d EARTH GLOBE |EUROPE-AFRICA|AMERICAS|ASIA-AUSTRALIA",
    "1f310 |GLOBE WITH MERIDIANS",
    "1f311 |NEW MOON SYMBOL|WAXING CRESCENT MOON SYMBOL|FIRST QUARTER MOON SYMBOL",
    "1f314 |WAXING GIBBOUS MOON SYMBOL|FULL MOON SYMBOL|WANING GIBBOUS MOON SYMBOL",
    "1f317 |LAST QUARTER MOON SYMBOL|WANING CRESCENT MOON SYMBOL|CRESCENT MOON|NEW MOON WITH FACE",
    "1f31b |FIRST QUARTER MOON WITH FACE|LAST QUARTER MOON WITH FACE|FULL MOON WITH FACE",
    "1f31e |SUN WITH FACE|GLOWING STAR|SHOOTING STAR|THERMOMETER|BLACK DROPLET|WHITE SUN",
    "1f324 WHITE SUN |WITH SMALL CLOUD|BEHIND CLOUD|BEHIND CLOUD WITH RAIN",
    "1f327 CLOUD WITH |RAIN|SNOW|LIGHTNING|TORNADO",
    "1f32b |FOG|WIND BLOWING FACE|HOT DOG|TACO|BURRITO|CHESTNUT|SEEDLING",
    "1f332 |EVERGREEN TREE|DECIDUOUS TREE|PALM TREE|CACTUS|HOT PEPPER|TULIP|CHERRY BLOSSOM",
    "1f339 |ROSE|HIBISCUS|SUNFLOWER|BLOSSOM|EAR OF MAIZE|EAR OF RICE|HERB|FOUR LEAF CLOVER",
    "1f341 |MAPLE LEAF|FALLEN LEAF|LEAF FLUTTERING IN WIND|MUSHROOM|TOMATO|AUBERGINE|GRAPES",
    "1f348 |MELON|WATERMELON|TANGERINE|LEMON|BANANA|PINEAPPLE|RED APPLE|GREEN APPLE|PEAR|PEACH",
    "1f352 |CHERRIES|STRAWBERRY|HAMBURGER|SLICE OF PIZZA|MEAT ON BONE|POULTRY LEG|RICE CRACKER",
    "1f359 |RICE BALL|COOKED RICE|CURRY AND RICE|STEAMING BOWL|SPAGHETTI|BREAD|FRENCH FRIES",
    "1f360 |ROASTED SWEET POTATO|DANGO|ODEN|SUSHI|FRIED SHRIMP|FISH CAKE WITH SWIRL DESIGN",
    "1f366 |SOFT ICE CREAM|SHAVED ICE|ICE CREAM|DOUGHNUT|COOKIE|CHOCOLATE BAR",
    "1f36c |CANDY|LOLLIPOP|CUSTARD|HONEY POT|SHORTCAKE|BENTO BOX|POT OF FOOD|COOKING",
    "1f374 |FORK AND KNIFE|TEACUP WITHOUT HANDLE|SAKE BOTTLE AND CUP|WINE GLASS|COCKTAIL GLASS",
    "1f379 |TROPICAL DRINK|BEER MUG|CLINKING BEER MUGS|BABY BOTTLE|FORK AND KNIFE WITH PLATE",
    "1f37e |BOTTLE WITH POPPING CORK|POPCORN|RIBBON|WRAPPED PRESENT|BIRTHDAY CAKE",
    "1f383 |JACK-O-LANTERN|CHRISTMAS TREE|FATHER CHRISTMAS|FIREWORKS|FIREWORK SPARKLER|BALLOON",
    "1f389 |PARTY POPPER|CONFETTI BALL|TANABATA TREE|CROSSED FLAGS|PINE DECORATION|JAPANESE DOLLS",
    "1f38f |CARP STREAMER|WIND CHIME|MOON VIEWING CEREMONY|SCHOOL SATCHEL|GRADUATION CAP",
    "1f394 |HEART WITH TIP ON THE LEFT|BOUQUET OF FLOWERS|MILITARY MEDAL|REMINDER RIBBON",
    "1f398 |MUSICAL KEYBOARD WITH JACKS|STUDIO MICROPHONE|LEVEL SLIDER|CONTROL KNOBS",
    "1f39c BEAMED |ASCENDING MUSICAL NOTES|DESCENDING MUSICAL NOTES",
    "1f39e |FILM FRAMES|ADMISSION TICKETS|CAROUSEL HORSE|FERRIS WHEEL",
    "1f3a2 |ROLLER COASTER|FISHING POLE AND FISH|MICROPHONE|MOVIE CAMERA|CINEMA|HEADPHONE",
    "1f3a8 |ARTIST PALETTE|TOP HAT|CIRCUS TENT|TICKET|CLAPPER BOARD|PERFORMING ARTS|VIDEO GAME",
    "1f3af |DIRECT HIT|SLOT MACHINE|BILLIARDS|GAME DIE|BOWLING|FLOWER PLAYING CARDS|MUSICAL NOTE",
    "1f3b6 |MULTIPLE MUSICAL NOTES|SAXOPHONE|GUITAR|MUSICAL KEYBOARD|TRUMPET|VIOLIN|MUSICAL SCORE",
    "1f3bd |RUNNING SHIRT WITH SASH|TENNIS RACQUET AND BALL|SKI AND SKI BOOT|BASKETBALL AND HOOP",
    "1f3c1 |CHEQUERED FLAG|SNOWBOARDER|RUNNER|SURFER|SPORTS MEDAL|TROPHY|HORSE RACING",
    "1f3c8 |AMERICAN FOOTBALL|RUGBY FOOTBALL|SWIMMER|WEIGHT LIFTER|GOLFER|RACING MOTORCYCLE",
    "1f3ce |RACING CAR|CRICKET BAT AND BALL|VOLLEYBALL|FIELD HOCKEY STICK AND BALL",
    "1f3d2 |ICE HOCKEY STICK AND PUCK|TABLE TENNIS PADDLE AND BALL|SNOW CAPPED MOUNTAIN",
    "1f3d5 |CAMPING|BEACH WITH UMBRELLA|BUILDING CONSTRUCTION|HOUSE BUILDINGS|CITYSCAPE",
    "1f3da |DERELICT HOUSE BUILDING|CLASSICAL BUILDING|DESERT|DESERT ISLAND|NATIONAL PARK",
    "1f3df |STADIUM|HOUSE BUILDING|HOUSE WITH GARDEN|OFFICE BUILDING|JAPANESE POST OFFICE",
    "1f3e4 |EUROPEAN POST OFFICE|HOSPITAL|BANK|AUTOMATED TELLER MACHINE|HOTEL|LOVE HOTEL",
    "1f3ea |CONVENIENCE STORE|SCHOOL|DEPARTMENT STORE|FACTORY|IZAKAYA LANTERN|JAPANESE CASTLE",
    "1f3f0 |EUROPEAN CASTLE|WHITE PENNANT|BLACK PENNANT|WAVING WHITE FLAG|WAVING BLACK FLAG",
    "1f3f5 |ROSETTE|BLACK ROSETTE|LABEL|BADMINTON RACQUET AND SHUTTLECOCK|BOW AND ARROW|AMPHORA",
    "1f3fb EMOJI MODIFIER FITZPATRICK |TYPE-1-2|TYPE-3|TYPE-4|TYPE-5|TYPE-6",
    "1f400 |RAT|MOUSE|OX|WATER BUFFALO|COW|TIGER|LEOPARD",
    "1f407 |RABBIT|CAT|DRAGON|CROCODILE|WHALE|SNAIL|SNAKE|HORSE|RAM|GOAT|SHEEP|MONKEY|ROOSTER",
    "1f414 |CHICKEN|DOG|PIG|BOAR|ELEPHANT|OCTOPUS|SPIRAL SHELL|BUG|ANT|HONEYBEE|LADY BEETLE",
    "1f41f |FISH|TROPICAL FISH|BLOWFISH|TURTLE|HATCHING CHICK|BABY CHICK|FRONT-FACING BABY CHICK",
    "1f426 |BIRD|PENGUIN|KOALA|POODLE|DROMEDARY CAMEL|BACTRIAN CAMEL|DOLPHIN|MOUSE FACE|COW FACE",
    "1f42f |TIGER FACE|RABBIT FACE|CAT FACE|DRAGON FACE|SPOUTING WHALE|HORSE FACE|MONKEY FACE",
    "1f436 |DOG FACE|PIG FACE|FROG FACE|HAMSTER FACE|WOLF FACE|BEAR FACE|PANDA FACE|PIG NOSE",
    "1f43e |PAW PRINTS|CHIPMUNK|EYES|EYE|EAR|NOSE|MOUTH|TONGUE|WHITE UP POINTING BACKHAND INDEX",
    "1f447 WHITE |DOWN POINTING BACKHAND INDEX|LEFT POINTING BACKHAND INDEX",
    "1f449 |WHITE RIGHT POINTING BACKHAND INDEX|FISTED HAND SIGN|WAVING HAND SIGN|OK HAND SIGN",
    "1f44d THUMBS |UP SIGN|DOWN SIGN",
    "1f44f |CLAPPING HANDS SIGN|OPEN HANDS SIGN|CROWN|WOMANS HAT|EYEGLASSES|NECKTIE|T-SHIRT",
    "1f456 |JEANS|DRESS|KIMONO|BIKINI|WOMANS CLOTHES|PURSE|HANDBAG|POUCH|MANS SHOE|ATHLETIC SHOE",
    "1f460 |HIGH-HEELED SHOE|WOMANS SANDAL|WOMANS BOOTS|FOOTPRINTS|BUST IN SILHOUETTE",
    "1f465 |BUSTS IN SILHOUETTE|BOY|GIRL|MAN|WOMAN|FAMILY|MAN AND WOMAN HOLDING HANDS",
    "1f46c |TWO MEN HOLDING HANDS|TWO WOMEN HOLDING HANDS|POLICE OFFICER|WOMAN WITH BUNNY EARS",
    "1f470 |BRIDE WITH VEIL|PERSON WITH BLOND HAIR|MAN WITH GUA PI MAO|MAN WITH TURBAN|OLDER MAN",
    "1f475 |OLDER WOMAN|BABY|CONSTRUCTION WORKER|PRINCESS|JAPANESE OGRE|JAPANESE GOBLIN|GHOST",
    "1f47c |BABY ANGEL|EXTRATERRESTRIAL ALIEN|ALIEN MONSTER|IMP|SKULL|INFORMATION DESK PERSON",
    "1f482 |GUARDSMAN|DANCER|LIPSTICK|NAIL POLISH|FACE MASSAGE|HAIRCUT|BARBER POLE|SYRINGE",
    "1f48a |PILL|KISS MARK|LOVE LETTER|RING|GEM STONE|KISS|BOUQUET|COUPLE WITH HEART|WEDDING",
    "1f493 |BEATING HEART|BROKEN HEART|TWO HEARTS|SPARKLING HEART|GROWING HEART|HEART WITH ARROW",
    "1f499 |BLUE HEART|GREEN HEART|YELLOW HEART|PURPLE HEART|HEART WITH RIBBON|REVOLVING HEARTS",
    "1f49f |HEART DECORATION|DIAMOND SHAPE WITH A DOT INSIDE|ELECTRIC LIGHT BULB|ANGER SYMBOL",
    "1f4a3 |BOMB|SLEEPING SYMBOL|COLLISION SYMBOL|SPLASHING SWEAT SYMBOL|DROPLET|DASH SYMBOL",
    "1f4a9 |PILE OF POO|FLEXED BICEPS|DIZZY SYMBOL|SPEECH BALLOON|THOUGHT BALLOON|WHITE FLOWER",
    "1f4af |HUNDRED POINTS SYMBOL|MONEY BAG|CURRENCY EXCHANGE|HEAVY DOLLAR SIGN|CREDIT CARD",
    "1f4b4 BANKNOTE WITH |YEN SIGN|DOLLAR SIGN|EURO SIGN|POUND SIGN",
    "1f4b8 |MONEY WITH WINGS|CHART WITH UPWARDS TREND AND YEN SIGN",
    "1f4ba |SEAT|PERSONAL COMPUTER|BRIEFCASE|MINIDISC|FLOPPY DISK|OPTICAL DISC|DVD|FILE FOLDER",
    "1f4c2 |OPEN FILE FOLDER|PAGE WITH CURL|PAGE FACING UP|CALENDAR|TEAR-OFF CALENDAR|CARD INDEX",
    "1f4c8 |CHART WITH UPWARDS TREND|CHART WITH DOWNWARDS TREND|BAR CHART|CLIPBOARD|PUSHPIN",
    "1f4cd |ROUND PUSHPIN|PAPERCLIP|STRAIGHT RULER|TRIANGULAR RULER|BOOKMARK TABS|LEDGER|NOTEBOOK",
    "1f4d4 |NOTEBOOK WITH DECORATIVE COVER|CLOSED BOOK|OPEN BOOK|GREEN BOOK|BLUE BOOK|ORANGE BOOK",
    "1f4da |BOOKS|NAME BADGE|SCROLL|MEMO|TELEPHONE RECEIVER|PAGER|FAX MACHINE|SATELLITE ANTENNA",
    "1f4e2 |PUBLIC ADDRESS LOUDSPEAKER|CHEERING MEGAPHONE|OUTBOX TRAY|INBOX TRAY",
    "1f4e6 |PACKAGE|E-MAIL SYMBOL|INCOMING ENVELOPE|ENVELOPE WITH DOWNWARDS ARROW ABOVE",
    "1f4ea CLOSED MAILBOX WITH |LOWERED FLAG|RAISED FLAG",
    "1f4ec OPEN MAILBOX WITH |RAISED FLAG|LOWERED FLAG",
    "1f4ee |POSTBOX|POSTAL HORN|NEWSPAPER|MOBILE PHONE|MOBILE PHONE WITH RIGHTWARDS ARROW AT LEFT",
    "1f4f3 |VIBRATION MODE|MOBILE PHONE OFF|NO MOBILE PHONES",
    "1f4f6 |ANTENNA WITH BARS|CAMERA|CAMERA WITH FLASH|VIDEO CAMERA|TELEVISION|RADIO",
    "1f4fc |VIDEOCASSETTE|FILM PROJECTOR|PORTABLE STEREO|PRAYER BEADS|TWISTED RIGHTWARDS ARROWS",
    "1f501 CLOCKWISE RIGHTWARDS AND LEFTWARDS OPEN CIRCLE |ARROWS|ARROWS WITH CIRCLED ONE OVERLAY",
    "1f503 |CLOCKWISE DOWNWARDS AND UPWARDS OPEN CIRCLE ARROWS",
    "1f504 |ANTICLOCKWISE DOWNWARDS AND UPWARDS OPEN CIRCLE ARROWS",
    "1f505 |LOW BRIGHTNESS SYMBOL|HIGH BRIGHTNESS SYMBOL|SPEAKER WITH CANCELLATION STROKE|SPEAKER",
    "1f509 SPEAKER WITH |ONE SOUND WAVE|THREE SOUND WAVES",
    "1f50b |BATTERY|ELECTRIC PLUG|LEFT-POINTING MAGNIFYING GLASS",
    "1f50e |RIGHT-POINTING MAGNIFYING GLASS|LOCK WITH INK PEN|CLOSED LOCK WITH KEY",
    "1f511 |KEY|LOCK|OPEN LOCK|BELL|BELL WITH CANCELLATION STROKE|BOOKMARK|LINK SYMBOL",
    "1f518 |RADIO BUTTON|BACK WITH LEFTWARDS ARROW ABOVE|END WITH LEFTWARDS ARROW ABOVE",
    "1f51b |ON WITH EXCLAMATION MARK WITH LEFT RIGHT ARROW ABOVE|SOON WITH RIGHTWARDS ARROW ABOVE",
    "1f51d |TOP WITH UPWARDS ARROW ABOVE|NO ONE UNDER EIGHTEEN SYMBOL|KEYCAP TEN",
    "1f520 INPUT SYMBOL FOR |LATIN CAPITAL LETTERS|LATIN SMALL LETTERS|NUMBERS|SYMBOLS",
    "1f524 |INPUT SYMBOL FOR LATIN LETTERS|FIRE|ELECTRIC TORCH|WRENCH|HAMMER|NUT AND BOLT",
    "1f52a |HOCHO|PISTOL|MICROSCOPE|TELESCOPE|CRYSTAL BALL|SIX POINTED STAR WITH MIDDLE DOT",
    "1f530 |JAPANESE SYMBOL FOR BEGINNER|TRIDENT EMBLEM|BLACK SQUARE BUTTON|WHITE SQUARE BUTTON",
    "1f534 LARGE |RED CIRCLE|BLUE CIRCLE|ORANGE DIAMOND|BLUE DIAMOND",
    "1f538 SMALL |ORANGE DIAMOND|BLUE DIAMOND",
    "1f53a |UP-POINTING RED TRIANGLE|DOWN-POINTING RED TRIANGLE|UP-POINTING SMALL RED TRIANGLE",
    "1f53d |DOWN-POINTING SMALL RED TRIANGLE|LOWER RIGHT SHADOWED WHITE CIRCLE",
    "1f53f |UPPER RIGHT SHADOWED WHITE CIRCLE|CIRCLED CROSS POMMEE",
    "1f541 CROSS |POMMEE WITH HALF-CIRCLE BELOW|POMMEE",
    "1f543 NOTCHED |LEFT SEMICIRCLE WITH THREE DOTS|RIGHT SEMICIRCLE WITH THREE DOTS",
    "1f545 |SYMBOL FOR MARKS CHAPTER|WHITE LATIN CROSS|HEAVY LATIN CROSS|CELTIC CROSS|OM SYMBOL",
    "1f54a |DOVE OF PEACE|KAABA|MOSQUE|SYNAGOGUE|MENORAH WITH NINE BRANCHES|BOWL OF HYGIEIA",
    "1f550 CLOCK FACE |ONE OCLOCK|TWO OCLOCK|THREE OCLOCK|FOUR OCLOCK|FIVE OCLOCK",
    "1f555 CLOCK FACE |SIX OCLOCK|SEVEN OCLOCK|EIGHT OCLOCK|NINE OCLOCK|TEN OCLOCK|ELEVEN OCLOCK",
    "1f55b CLOCK FACE |TWELVE OCLOCK|ONE-THIRTY|TWO-THIRTY|THREE-THIRTY|FOUR-THIRTY|FIVE-THIRTY",
    "1f561 CLOCK FACE |SIX-THIRTY|SEVEN-THIRTY|EIGHT-THIRTY|NINE-THIRTY|TEN-THIRTY|ELEVEN-THIRTY",
    "1f567 |CLOCK FACE TWELVE-THIRTY|RIGHT SPEAKER",
    "1f569 RIGHT SPEAKER WITH |ONE SOUND WAVE|THREE SOUND WAVES",
    "1f56b |BULLHORN|BULLHORN WITH SOUND WAVES",
    "1f56d |RINGING BELL|BOOK|CANDLE|MANTELPIECE CLOCK|BLACK SKULL AND CROSSBONES",
    "1f572 |NO PIRACY|HOLE|MAN IN BUSINESS SUIT LEVITATING|SLEUTH OR SPY",
    "1f576 |DARK SUNGLASSES|SPIDER|SPIDER WEB|JOYSTICK|MAN DANCING|LEFT HAND TELEPHONE RECEIVER",
    "1f57c |TELEPHONE RECEIVER WITH PAGE|RIGHT HAND TELEPHONE RECEIVER",
    "1f57e |WHITE TOUCHTONE TELEPHONE|BLACK TOUCHTONE TELEPHONE|TELEPHONE ON TOP OF MODEM",
    "1f581 |CLAMSHELL MOBILE PHONE|BACK OF ENVELOPE|STAMPED ENVELOPE|ENVELOPE WITH LIGHTNING",
    "1f585 |FLYING ENVELOPE|PEN OVER STAMPED ENVELOPE|LINKED PAPERCLIPS|BLACK PUSHPIN",
    "1f589 LOWER LEFT |PENCIL|BALLPOINT PEN|FOUNTAIN PEN|PAINTBRUSH|CRAYON",
    "1f58e |LEFT WRITING HAND|TURNED OK HAND SIGN|RAISED HAND WITH FINGERS SPLAYED",
    "1f591 REVERSED |RAISED HAND WITH FINGERS SPLAYED|THUMBS UP SIGN",
    "1f593 REVERSED |THUMBS DOWN SIGN|VICTORY HAND|HAND WITH MIDDLE FINGER EXTENDED",
    "1f596 |RAISED HAND WITH PART BETWEEN MIDDLE AND RING FINGERS",
    "1f597 |WHITE DOWN POINTING LEFT HAND INDEX",
    "1f598 SIDEWAYS WHITE |LEFT POINTING INDEX|RIGHT POINTING INDEX",
    "1f59a SIDEWAYS BLACK |LEFT POINTING INDEX|RIGHT POINTING INDEX",
    "1f59c BLACK |LEFT POINTING BACKHAND INDEX|RIGHT POINTING BACKHAND INDEX",
    "1f59e SIDEWAYS WHITE |UP POINTING INDEX|DOWN POINTING INDEX",
    "1f5a0 SIDEWAYS BLACK |UP POINTING INDEX|DOWN POINTING INDEX",
    "1f5a2 BLACK |UP POINTING BACKHAND INDEX|DOWN POINTING BACKHAND INDEX|HEART",
    "1f5a5 |DESKTOP COMPUTER|KEYBOARD AND MOUSE",
    "1f5a7 |THREE NETWORKED COMPUTERS|PRINTER|POCKET CALCULATOR|BLACK HARD SHELL FLOPPY DISK",
    "1f5ab |WHITE HARD SHELL FLOPPY DISK|SOFT SHELL FLOPPY DISK|TAPE CARTRIDGE",
    "1f5ae |WIRED KEYBOARD|ONE BUTTON MOUSE|TWO BUTTON MOUSE|THREE BUTTON MOUSE|TRACKBALL",
    "1f5b3 |OLD PERSONAL COMPUTER|HARD DISK|SCREEN|PRINTER ICON|FAX ICON|OPTICAL DISC ICON",
    "1f5b9 DOCUMENT WITH |TEXT|TEXT AND PICTURE|PICTURE",
    "1f5bc FRAME WITH |PICTURE|TILES|AN X",
    "1f5bf |BLACK FOLDER|FOLDER|OPEN FOLDER|CARD INDEX DIVIDERS",
    "1f5c3 |CARD FILE BOX|FILE CABINET|EMPTY NOTE|EMPTY NOTE PAGE|EMPTY NOTE PAD|NOTE|NOTE PAGE",
    "1f5ca |NOTE PAD|EMPTY DOCUMENT|EMPTY PAGE|EMPTY PAGES|DOCUMENT|PAGE|PAGES|WASTEBASKET",
    "1f5d2 |SPIRAL NOTE PAD|SPIRAL CALENDAR PAD|DESKTOP WINDOW|MINIMIZE|MAXIMIZE|OVERLAP",
    "1f5d8 |CLOCKWISE RIGHT AND LEFT SEMICIRCLE ARROWS|CANCELLATION X|INCREASE FONT SIZE SYMBOL",
    "1f5db |DECREASE FONT SIZE SYMBOL|COMPRESSION|OLD KEY|ROLLED-UP NEWSPAPER",
    "1f5df |PAGE WITH CIRCLED TEXT|STOCK CHART|DAGGER KNIFE|LIPS|SPEAKING HEAD IN SILHOUETTE",
    "1f5e4 THREE RAYS |ABOVE|BELOW|LEFT|RIGHT",
    "1f5e8 |LEFT SPEECH BUBBLE|RIGHT SPEECH BUBBLE",
    "1f5ea |TWO SPEECH BUBBLES|THREE SPEECH BUBBLES|LEFT THOUGHT BUBBLE|RIGHT THOUGHT BUBBLE",
    "1f5ee |LEFT ANGER BUBBLE|RIGHT ANGER BUBBLE|MOOD BUBBLE|LIGHTNING MOOD BUBBLE|LIGHTNING MOOD",
    "1f5f3 BALLOT |BOX WITH BALLOT|SCRIPT X|BOX WITH SCRIPT X|BOLD SCRIPT X",
    "1f5f7 |BALLOT BOX WITH BOLD SCRIPT X|LIGHT CHECK MARK|BALLOT BOX WITH BOLD CHECK|WORLD MAP",
    "1f5fb |MOUNT FUJI|TOKYO TOWER|STATUE OF LIBERTY|SILHOUETTE OF JAPAN|MOYAI|GRINNING FACE",
    "1f601 |GRINNING FACE WITH SMILING EYES|FACE WITH TEARS OF JOY|SMILING FACE WITH OPEN MOUTH",
    "1f604 SMILING FACE WITH OPEN MOUTH AND |SMILING EYES|COLD SWEAT|TIGHTLY-CLOSED EYES",
    "1f607 SMILING FACE WITH |HALO|HORNS",
    "1f609 |WINKING FACE",
    "1f60a |SMILING FACE WITH SMILING EYES|FACE SAVOURING DELICIOUS FOOD|RELIEVED FACE",
    "1f60d SMILING FACE WITH |HEART-SHAPED EYES|SUNGLASSES",
    "1f60f |SMIRKING FACE|NEUTRAL FACE|EXPRESSIONLESS FACE|UNAMUSED FACE|FACE WITH COLD SWEAT",
    "1f614 |PENSIVE FACE|CONFUSED FACE|CONFOUNDED FACE|KISSING FACE|FACE THROWING A KISS",
    "1f619 KISSING FACE WITH |SMILING EYES|CLOSED EYES",
    "1f61b FACE WITH STUCK-OUT |TONGUE|TONGUE AND WINKING EYE|TONGUE AND TIGHTLY-CLOSED EYES",
    "1f61e |DISAPPOINTED FACE|WORRIED FACE|ANGRY FACE|POUTING FACE",
    "1f622 |CRYING FACE|PERSEVERING FACE|FACE WITH LOOK OF TRIUMPH|DISAPPOINTED BUT RELIEVED FACE",
    "1f626 |FROWNING FACE WITH OPEN MOUTH|ANGUISHED FACE|FEARFUL FACE|WEARY FACE|SLEEPY FACE",
    "1f62b |TIRED FACE|GRIMACING FACE|LOUDLY CRYING FACE|FACE WITH OPEN MOUTH|HUSHED FACE",
    "1f630 FACE |WITH OPEN MOUTH AND COLD SWEAT|SCREAMING IN FEAR",
    "1f632 |ASTONISHED FACE|FLUSHED FACE|SLEEPING FACE|DIZZY FACE|FACE WITHOUT MOUTH",
    "1f637 |FACE WITH MEDICAL MASK|GRINNING CAT FACE WITH SMILING EYES|CAT FACE WITH TEARS OF JOY",
    "1f63a SMILING CAT FACE WITH |OPEN MOUTH|HEART-SHAPED EYES",
    "1f63c |CAT FACE WITH WRY SMILE",
    "1f63d |KISSING CAT FACE WITH CLOSED EYES|POUTING CAT FACE|CRYING CAT FACE",
    "1f640 |WEARY CAT FACE|SLIGHTLY FROWNING FACE|SLIGHTLY SMILING FACE|UPSIDE-DOWN FACE",
    "1f644 FACE WITH |ROLLING EYES|NO GOOD GESTURE|OK GESTURE",
    "1f647 |PERSON BOWING DEEPLY|SEE-NO-EVIL MONKEY",
    "1f649 |HEAR-NO-EVIL MONKEY|SPEAK-NO-EVIL MONKEY|HAPPY PERSON RAISING ONE HAND",
    "1f64c PERSON |RAISING BOTH HANDS IN CELEBRATION|FROWNING|WITH POUTING FACE|WITH FOLDED HANDS",
    "1f650 |NORTH WEST POINTING LEAF|SOUTH WEST POINTING LEAF",
    "1f652 |NORTH EAST POINTING LEAF|SOUTH EAST POINTING LEAF|TURNED NORTH WEST POINTING LEAF",
    "1f655 TURNED |SOUTH WEST POINTING LEAF|NORTH EAST POINTING LEAF|SOUTH EAST POINTING LEAF",
    "1f658 |NORTH WEST POINTING VINE LEAF|SOUTH WEST POINTING VINE LEAF",
    "1f65a |NORTH EAST POINTING VINE LEAF|SOUTH EAST POINTING VINE LEAF",
    "1f65c HEAVY |NORTH WEST POINTING VINE LEAF|SOUTH WEST POINTING VINE LEAF",
    "1f65e HEAVY |NORTH EAST POINTING VINE LEAF|SOUTH EAST POINTING VINE LEAF",
    "1f660 |NORTH WEST POINTING BUD|SOUTH WEST POINTING BUD",
    "1f662 |NORTH EAST POINTING BUD|SOUTH EAST POINTING BUD|HEAVY NORTH WEST POINTING BUD",
    "1f665 HEAVY |SOUTH WEST POINTING BUD|NORTH EAST POINTING BUD|SOUTH EAST POINTING BUD",
    "1f668 HOLLOW QUILT SQUARE |ORNAMENT|ORNAMENT IN BLACK SQUARE",
    "1f66a SOLID QUILT SQUARE |ORNAMENT|ORNAMENT IN BLACK SQUARE",
    "1f66c |LEFTWARDS ROCKET|UPWARDS ROCKET|RIGHTWARDS ROCKET",
    "1f66f |DOWNWARDS ROCKET|SCRIPT LIGATURE ET ORNAMENT|HEAVY SCRIPT LIGATURE ET ORNAMENT",
    "1f672 |LIGATURE OPEN ET ORNAMENT|HEAVY LIGATURE OPEN ET ORNAMENT|HEAVY AMPERSAND ORNAMENT",
    "1f675 |SWASH AMPERSAND ORNAMENT|SANS-SERIF HEAVY DOUBLE TURNED COMMA QUOTATION MARK ORNAMENT",
    "1f677 |SANS-SERIF HEAVY DOUBLE COMMA QUOTATION MARK ORNAMENT",
    "1f678 |SANS-SERIF HEAVY LOW DOUBLE COMMA QUOTATION MARK ORNAMENT|HEAVY INTERROBANG ORNAMENT",
    "1f67a |SANS-SERIF INTERROBANG ORNAMENT|HEAVY SANS-SERIF INTERROBANG ORNAMENT",
    "1f67c VERY HEAVY |SOLIDUS|REVERSE SOLIDUS",
    "1f67e |CHECKER BOARD|REVERSE CHECKER BOARD|ROCKET|HELICOPTER",
    "1f682 |STEAM LOCOMOTIVE|RAILWAY CAR|HIGH-SPEED TRAIN|HIGH-SPEED TRAIN WITH BULLET NOSE|TRAIN",
    "1f687 |METRO|LIGHT RAIL|STATION|TRAM|TRAM CAR|BUS|ONCOMING BUS|TROLLEYBUS|BUS STOP|MINIBUS",
    "1f691 |AMBULANCE|FIRE ENGINE|POLICE CAR|ONCOMING POLICE CAR|TAXI|ONCOMING TAXI|AUTOMOBILE",
    "1f698 |ONCOMING AUTOMOBILE|RECREATIONAL VEHICLE|DELIVERY TRUCK|ARTICULATED LORRY|TRACTOR",
    "1f69d |MONORAIL|MOUNTAIN RAILWAY|SUSPENSION RAILWAY|MOUNTAIN CABLEWAY|AERIAL TRAMWAY|SHIP",
    "1f6a3 |ROWBOAT|SPEEDBOAT|HORIZONTAL TRAFFIC LIGHT|VERTICAL TRAFFIC LIGHT|CONSTRUCTION SIGN",
    "1f6a8 |POLICE CARS REVOLVING LIGHT|TRIANGULAR FLAG ON POST|DOOR|NO ENTRY SIGN",
    "1f6ac |SMOKING SYMBOL|NO SMOKING SYMBOL|PUT LITTER IN ITS PLACE SYMBOL|DO NOT LITTER SYMBOL",
    "1f6b0 |POTABLE WATER SYMBOL|NON-POTABLE WATER SYMBOL|BICYCLE|NO BICYCLES",
    "1f6b4 |BICYCLIST|MOUNTAIN BICYCLIST|PEDESTRIAN|NO PEDESTRIANS|CHILDREN CROSSING|MENS SYMBOL",
    "1f6ba |WOMENS SYMBOL|RESTROOM|BABY SYMBOL|TOILET|WATER CLOSET|SHOWER|BATH|BATHTUB",
    "1f6c2 |PASSPORT CONTROL|CUSTOMS|BAGGAGE CLAIM|LEFT LUGGAGE|TRIANGLE WITH ROUNDED CORNERS",
    "1f6c7 |PROHIBITED SIGN|CIRCLED INFORMATION SOURCE|BOYS SYMBOL|GIRLS SYMBOL",
    "1f6cb |COUCH AND LAMP|SLEEPING ACCOMMODATION|SHOPPING BAGS|BELLHOP BELL|BED|PLACE OF WORSHIP",
    "1f6d1 |OCTAGONAL SIGN|SHOPPING TROLLEY|STUPA|PAGODA|HINDU TEMPLE|HUT|ELEVATOR",
    "1f6dd |PLAYGROUND SLIDE",
    "1f6de |WHEEL|RING BUOY|HAMMER AND WRENCH|SHIELD|OIL DRUM|MOTORWAY|RAILWAY TRACK|MOTOR BOAT",
    "1f6e6 UP-POINTING |MILITARY AIRPLANE|AIRPLANE|SMALL AIRPLANE",
    "1f6e9 |SMALL AIRPLANE|NORTHEAST-POINTING AIRPLANE|AIRPLANE DEPARTURE|AIRPLANE ARRIVING",
    "1f6f0 |SATELLITE|ONCOMING FIRE ENGINE|DIESEL LOCOMOTIVE|PASSENGER SHIP|SCOOTER|MOTOR SCOOTER",
    "1f6f6 |CANOE|SLED|FLYING SAUCER|SKATEBOARD|AUTO RICKSHAW|PICKUP TRUCK|ROLLER SKATE",
    "1f700 ALCHEMICAL SYMBOL FOR |QUINTESSENCE|AIR|FIRE|EARTH|WATER|AQUAFORTIS",
    "1f706 ALCHEMICAL SYMBOL FOR |AQUA REGIA|AQUA REGIA-2|AQUA VITAE|AQUA VITAE-2|VINEGAR",
    "1f70b ALCHEMICAL SYMBOL FOR |VINEGAR-2|VINEGAR-3|SULFUR|PHILOSOPHERS SULFUR|BLACK SULFUR",
    "1f710 ALCHEMICAL SYMBOL FOR MERCURY |SUBLIMATE|SUBLIMATE-2|SUBLIMATE-3",
    "1f713 ALCHEMICAL SYMBOL FOR |CINNABAR|SALT|NITRE|VITRIOL|VITRIOL-2|ROCK SALT",
    "1f719 ALCHEMICAL SYMBOL FOR |ROCK SALT-2|GOLD|SILVER|IRON ORE|IRON ORE-2|CROCUS OF IRON",
    "1f71f ALCHEMICAL SYMBOL FOR |REGULUS OF IRON|COPPER ORE|IRON-COPPER ORE|SUBLIMATE OF COPPER",
    "1f723 ALCHEMICAL SYMBOL FOR |CROCUS OF COPPER|CROCUS OF COPPER-2|COPPER ANTIMONIATE",
    "1f726 ALCHEMICAL SYMBOL FOR |SALT OF COPPER ANTIMONIATE|SUBLIMATE OF SALT OF COPPER",
    "1f728 ALCHEMICAL SYMBOL FOR |VERDIGRIS|TIN ORE|LEAD ORE|ANTIMONY ORE|SUBLIMATE OF ANTIMONY",
    "1f72d ALCHEMICAL SYMBOL FOR |SALT OF ANTIMONY|SUBLIMATE OF SALT OF ANTIMONY",
    "1f72f ALCHEMICAL SYMBOL FOR |VINEGAR OF ANTIMONY|REGULUS OF ANTIMONY|REGULUS OF ANTIMONY-2",
    "1f732 ALCHEMICAL SYMBOL FOR |REGULUS|REGULUS-2|REGULUS-3|REGULUS-4|ALKALI|ALKALI-2|MARCASITE",
    "1f739 ALCHEMICAL SYMBOL FOR |SAL-AMMONIAC|ARSENIC|REALGAR|REALGAR-2|AURIPIGMENT|BISMUTH ORE",
    "1f73f ALCHEMICAL SYMBOL FOR |TARTAR|TARTAR-2|QUICK LIME|BORAX|BORAX-2|BORAX-3|ALUM",
    "1f746 ALCHEMICAL SYMBOL FOR |OIL|SPIRIT|TINCTURE|GUM|WAX|POWDER|CALX|TUTTY|CAPUT MORTUUM",
    "1f74f ALCHEMICAL SYMBOL FOR |SCEPTER OF JOVE|CADUCEUS|TRIDENT|STARRED TRIDENT|LODESTONE|SOAP",
    "1f755 ALCHEMICAL SYMBOL FOR |URINE|HORSE DUNG|ASHES|POT ASHES|BRICK|POWDERED BRICK|AMALGAM",
    "1f75c ALCHEMICAL SYMBOL FOR STRATUM SUPER |STRATUM|STRATUM-2",
    "1f75e ALCHEMICAL SYMBOL FOR |SUBLIMATION|PRECIPITATE|DISTILL|DISSOLVE",
    "1f762 ALCHEMICAL SYMBOL FOR |DISSOLVE-2|PURIFY|PUTREFACTION|CRUCIBLE|CRUCIBLE-2|CRUCIBLE-3",
    "1f768 ALCHEMICAL SYMBOL FOR |CRUCIBLE-4|CRUCIBLE-5|ALEMBIC|BATH OF MARY|BATH OF VAPOURS",
    "1f76d ALCHEMICAL SYMBOL FOR |RETORT|HOUR|NIGHT|DAY-NIGHT|MONTH|HALF DRAM|HALF OUNCE",
    "1f780 BLACK |LEFT-POINTING ISOSCELES RIGHT TRIANGLE|UP-POINTING ISOSCELES RIGHT TRIANGLE",
    "1f782 BLACK |RIGHT-POINTING ISOSCELES RIGHT TRIANGLE|DOWN-POINTING ISOSCELES RIGHT TRIANGLE",
    "1f784 |BLACK SLIGHTLY SMALL CIRCLE|MEDIUM BOLD WHITE CIRCLE|BOLD WHITE CIRCLE",
    "1f787 |HEAVY WHITE CIRCLE|VERY HEAVY WHITE CIRCLE|EXTREMELY HEAVY WHITE CIRCLE",
    "1f78a |WHITE CIRCLE CONTAINING BLACK SMALL CIRCLE|ROUND TARGET|BLACK TINY SQUARE",
    "1f78d |BLACK SLIGHTLY SMALL SQUARE|LIGHT WHITE SQUARE|MEDIUM WHITE SQUARE|BOLD WHITE SQUARE",
    "1f791 |HEAVY WHITE SQUARE|VERY HEAVY WHITE SQUARE|EXTREMELY HEAVY WHITE SQUARE",
    "1f794 WHITE SQUARE CONTAINING BLACK |VERY SMALL SQUARE|MEDIUM SQUARE",
    "1f796 |SQUARE TARGET|BLACK TINY DIAMOND|BLACK VERY SMALL DIAMOND|BLACK MEDIUM SMALL DIAMOND",
    "1f79a WHITE DIAMOND CONTAINING BLACK |VERY SMALL DIAMOND|MEDIUM DIAMOND",
    "1f79c |DIAMOND TARGET|BLACK TINY LOZENGE|BLACK VERY SMALL LOZENGE",
    "1f79f |BLACK MEDIUM SMALL LOZENGE|WHITE LOZENGE CONTAINING BLACK SMALL LOZENGE",
    "1f7a1 |THIN GREEK CROSS|LIGHT GREEK CROSS|MEDIUM GREEK CROSS|BOLD GREEK CROSS",
    "1f7a5 |VERY BOLD GREEK CROSS|VERY HEAVY GREEK CROSS|EXTREMELY HEAVY GREEK CROSS|THIN SALTIRE",
    "1f7a9 |LIGHT SALTIRE|MEDIUM SALTIRE|BOLD SALTIRE|HEAVY SALTIRE|VERY HEAVY SALTIRE",
    "1f7ae |EXTREMELY HEAVY SALTIRE|LIGHT FIVE SPOKED ASTERISK|MEDIUM FIVE SPOKED ASTERISK",
    "1f7b1 |BOLD FIVE SPOKED ASTERISK|HEAVY FIVE SPOKED ASTERISK|VERY HEAVY FIVE SPOKED ASTERISK",
    "1f7b4 |EXTREMELY HEAVY FIVE SPOKED ASTERISK|LIGHT SIX SPOKED ASTERISK",
    "1f7b6 |MEDIUM SIX SPOKED ASTERISK|BOLD SIX SPOKED ASTERISK|HEAVY SIX SPOKED ASTERISK",
    "1f7b9 |VERY HEAVY SIX SPOKED ASTERISK|EXTREMELY HEAVY SIX SPOKED ASTERISK",
    "1f7bb |LIGHT EIGHT SPOKED ASTERISK|MEDIUM EIGHT SPOKED ASTERISK|BOLD EIGHT SPOKED ASTERISK",
    "1f7be |HEAVY EIGHT SPOKED ASTERISK|VERY HEAVY EIGHT SPOKED ASTERISK",
    "1f7c0 |LIGHT THREE POINTED BLACK STAR|MEDIUM THREE POINTED BLACK STAR",
    "1f7c2 |THREE POINTED BLACK STAR|MEDIUM THREE POINTED PINWHEEL STAR",
    "1f7c4 |LIGHT FOUR POINTED BLACK STAR|MEDIUM FOUR POINTED BLACK STAR|FOUR POINTED BLACK STAR",
    "1f7c7 |MEDIUM FOUR POINTED PINWHEEL STAR|REVERSE LIGHT FOUR POINTED PINWHEEL STAR",
    "1f7c9 |LIGHT FIVE POINTED BLACK STAR|HEAVY FIVE POINTED BLACK STAR",
    "1f7cb |MEDIUM SIX POINTED BLACK STAR|HEAVY SIX POINTED BLACK STAR",
    "1f7cd |SIX POINTED PINWHEEL STAR|MEDIUM EIGHT POINTED BLACK STAR",
    "1f7cf |HEAVY EIGHT POINTED BLACK STAR|VERY HEAVY EIGHT POINTED BLACK STAR",
    "1f7d1 |HEAVY EIGHT POINTED PINWHEEL STAR|LIGHT TWELVE POINTED BLACK STAR",
    "1f7d3 HEAVY TWELVE POINTED |BLACK STAR|PINWHEEL STAR",
    "1f7d5 |CIRCLED TRIANGLE|NEGATIVE CIRCLED TRIANGLE|CIRCLED SQUARE|NEGATIVE CIRCLED SQUARE",
    "1f7e0 LARGE |ORANGE CIRCLE|YELLOW CIRCLE|GREEN CIRCLE|PURPLE CIRCLE|BROWN CIRCLE|RED SQUARE",
    "1f7e6 LARGE |BLUE SQUARE|ORANGE SQUARE|YELLOW SQUARE|GREEN SQUARE|PURPLE SQUARE|BROWN SQUARE",
    "1f7f0 |HEAVY EQUALS SIGN",
    "1f800 |LEFTWARDS ARROW WITH SMALL TRIANGLE ARROWHEAD",
    "1f801 |UPWARDS ARROW WITH SMALL TRIANGLE ARROWHEAD",
    "1f802 |RIGHTWARDS ARROW WITH SMALL TRIANGLE ARROWHEAD",
    "1f803 |DOWNWARDS ARROW WITH SMALL TRIANGLE ARROWHEAD",
    "1f804 |LEFTWARDS ARROW WITH MEDIUM TRIANGLE ARROWHEAD",
    "1f805 |UPWARDS ARROW WITH MEDIUM TRIANGLE ARROWHEAD",
    "1f806 |RIGHTWARDS ARROW WITH MEDIUM TRIANGLE ARROWHEAD",
    "1f807 |DOWNWARDS ARROW WITH MEDIUM TRIANGLE ARROWHEAD",
    "1f808 |LEFTWARDS ARROW WITH LARGE TRIANGLE ARROWHEAD",
    "1f809 |UPWARDS ARROW WITH LARGE TRIANGLE ARROWHEAD",
    "1f80a |RIGHTWARDS ARROW WITH LARGE TRIANGLE ARROWHEAD",
    "1f80b |DOWNWARDS ARROW WITH LARGE TRIANGLE ARROWHEAD",
    "1f810 |LEFTWARDS ARROW WITH SMALL EQUILATERAL ARROWHEAD",
    "1f811 |UPWARDS ARROW WITH SMALL EQUILATERAL ARROWHEAD",
    "1f812 |RIGHTWARDS ARROW WITH SMALL EQUILATERAL ARROWHEAD",
    "1f813 |DOWNWARDS ARROW WITH SMALL EQUILATERAL ARROWHEAD",
    "1f814 |LEFTWARDS ARROW WITH EQUILATERAL ARROWHEAD",
    "1f815 |UPWARDS ARROW WITH EQUILATERAL ARROWHEAD|RIGHTWARDS ARROW WITH EQUILATERAL ARROWHEAD",
    "1f817 |DOWNWARDS ARROW WITH EQUILATERAL ARROWHEAD",
    "1f818 |HEAVY LEFTWARDS ARROW WITH EQUILATERAL ARROWHEAD",
    "1f819 |HEAVY UPWARDS ARROW WITH EQUILATERAL ARROWHEAD",
    "1f81a |HEAVY RIGHTWARDS ARROW WITH EQUILATERAL ARROWHEAD",
    "1f81b |HEAVY DOWNWARDS ARROW WITH EQUILATERAL ARROWHEAD",
    "1f81c |HEAVY LEFTWARDS ARROW WITH LARGE EQUILATERAL ARROWHEAD",
    "1f81d |HEAVY UPWARDS ARROW WITH LARGE EQUILATERAL ARROWHEAD",
    "1f81e |HEAVY RIGHTWARDS ARROW WITH LARGE EQUILATERAL ARROWHEAD",
    "1f81f |HEAVY DOWNWARDS ARROW WITH LARGE EQUILATERAL ARROWHEAD",
    "1f820 |LEFTWARDS TRIANGLE-HEADED ARROW WITH NARROW SHAFT",
    "1f821 |UPWARDS TRIANGLE-HEADED ARROW WITH NARROW SHAFT",
    "1f822 |RIGHTWARDS TRIANGLE-HEADED ARROW WITH NARROW SHAFT",
    "1f823 |DOWNWARDS TRIANGLE-HEADED ARROW WITH NARROW SHAFT",
    "1f824 |LEFTWARDS TRIANGLE-HEADED ARROW WITH MEDIUM SHAFT",
    "1f825 |UPWARDS TRIANGLE-HEADED ARROW WITH MEDIUM SHAFT",
    "1f826 |RIGHTWARDS TRIANGLE-HEADED ARROW WITH MEDIUM SHAFT",
    "1f827 |DOWNWARDS TRIANGLE-HEADED ARROW WITH MEDIUM SHAFT",
    "1f828 |LEFTWARDS TRIANGLE-HEADED ARROW WITH BOLD SHAFT",
    "1f829 |UPWARDS TRIANGLE-HEADED ARROW WITH BOLD SHAFT",
    "1f82a |RIGHTWARDS TRIANGLE-HEADED ARROW WITH BOLD SHAFT",
    "1f82b |DOWNWARDS TRIANGLE-HEADED ARROW WITH BOLD SHAFT",
    "1f82c |LEFTWARDS TRIANGLE-HEADED ARROW WITH HEAVY SHAFT",
    "1f82d |UPWARDS TRIANGLE-HEADED ARROW WITH HEAVY SHAFT",
    "1f82e |RIGHTWARDS TRIANGLE-HEADED ARROW WITH HEAVY SHAFT",
    "1f82f |DOWNWARDS TRIANGLE-HEADED ARROW WITH HEAVY SHAFT",
    "1f830 |LEFTWARDS TRIANGLE-HEADED ARROW WITH VERY HEAVY SHAFT",
    "1f831 |UPWARDS TRIANGLE-HEADED ARROW WITH VERY HEAVY SHAFT",
    "1f832 |RIGHTWARDS TRIANGLE-HEADED ARROW WITH VERY HEAVY SHAFT",
    "1f833 |DOWNWARDS TRIANGLE-HEADED ARROW WITH VERY HEAVY SHAFT",
    "1f834 |LEFTWARDS FINGER-POST ARROW|UPWARDS FINGER-POST ARROW",
    "1f836 |RIGHTWARDS FINGER-POST ARROW|DOWNWARDS FINGER-POST ARROW|LEFTWARDS SQUARED ARROW",
    "1f839 |UPWARDS SQUARED ARROW|RIGHTWARDS SQUARED ARROW|DOWNWARDS SQUARED ARROW",
    "1f83c |LEFTWARDS COMPRESSED ARROW|UPWARDS COMPRESSED ARROW|RIGHTWARDS COMPRESSED ARROW",
    "1f83f |DOWNWARDS COMPRESSED ARROW|LEFTWARDS HEAVY COMPRESSED ARROW",
    "1f841 |UPWARDS HEAVY COMPRESSED ARROW|RIGHTWARDS HEAVY COMPRESSED ARROW",
    "1f843 |DOWNWARDS HEAVY COMPRESSED ARROW|LEFTWARDS HEAVY ARROW",
    "1f845 |UPWARDS HEAVY ARROW|RIGHTWARDS HEAVY ARROW|DOWNWARDS HEAVY ARROW",
    "1f850 |LEFTWARDS SANS-SERIF ARROW|UPWARDS SANS-SERIF ARROW|RIGHTWARDS SANS-SERIF ARROW",
    "1f853 |DOWNWARDS SANS-SERIF ARROW|NORTH WEST SANS-SERIF ARROW|NORTH EAST SANS-SERIF ARROW",
    "1f856 SOUTH |EAST SANS-SERIF ARROW|WEST SANS-SERIF ARROW",
    "1f858 |LEFT RIGHT SANS-SERIF ARROW|UP DOWN SANS-SERIF ARROW",
    "1f860 WIDE-HEADED |LEFTWARDS LIGHT BARB ARROW|UPWARDS LIGHT BARB ARROW",
    "1f862 WIDE-HEADED |RIGHTWARDS LIGHT BARB ARROW|DOWNWARDS LIGHT BARB ARROW",
    "1f864 WIDE-HEADED NORTH |WEST LIGHT BARB ARROW|EAST LIGHT BARB ARROW",
    "1f866 WIDE-HEADED SOUTH |EAST LIGHT BARB ARROW|WEST LIGHT BARB ARROW",
    "1f868 WIDE-HEADED |LEFTWARDS BARB ARROW|UPWARDS BARB ARROW|RIGHTWARDS BARB ARROW",
    "1f86b WIDE-HEADED |DOWNWARDS BARB ARROW|NORTH WEST BARB ARROW|NORTH EAST BARB ARROW",
    "1f86e WIDE-HEADED SOUTH |EAST BARB ARROW|WEST BARB ARROW",
    "1f870 WIDE-HEADED |LEFTWARDS MEDIUM BARB ARROW|UPWARDS MEDIUM BARB ARROW",
    "1f872 WIDE-HEADED |RIGHTWARDS MEDIUM BARB ARROW|DOWNWARDS MEDIUM BARB ARROW",
    "1f874 WIDE-HEADED NORTH |WEST MEDIUM BARB ARROW|EAST MEDIUM BARB ARROW",
    "1f876 WIDE-HEADED SOUTH |EAST MEDIUM BARB ARROW|WEST MEDIUM BARB ARROW",
    "1f878 WIDE-HEADED |LEFTWARDS HEAVY BARB ARROW|UPWARDS HEAVY BARB ARROW",
    "1f87a WIDE-HEADED |RIGHTWARDS HEAVY BARB ARROW|DOWNWARDS HEAVY BARB ARROW",
    "1f87c WIDE-HEADED NORTH |WEST HEAVY BARB ARROW|EAST HEAVY BARB ARROW",
    "1f87e WIDE-HEADED SOUTH |EAST HEAVY BARB ARROW|WEST HEAVY BARB ARROW",
    "1f880 WIDE-HEADED |LEFTWARDS VERY HEAVY BARB ARROW|UPWARDS VERY HEAVY BARB ARROW",
    "1f882 WIDE-HEADED |RIGHTWARDS VERY HEAVY BARB ARROW|DOWNWARDS VERY HEAVY BARB ARROW",
    "1f884 WIDE-HEADED NORTH |WEST VERY HEAVY BARB ARROW|EAST VERY HEAVY BARB ARROW",
    "1f886 WIDE-HEADED SOUTH |EAST VERY HEAVY BARB ARROW|WEST VERY HEAVY BARB ARROW",
    "1f890 |LEFTWARDS TRIANGLE ARROWHEAD|UPWARDS TRIANGLE ARROWHEAD|RIGHTWARDS TRIANGLE ARROWHEAD",
    "1f893 |DOWNWARDS TRIANGLE ARROWHEAD|LEFTWARDS WHITE ARROW WITHIN TRIANGLE ARROWHEAD",
    "1f895 |UPWARDS WHITE ARROW WITHIN TRIANGLE ARROWHEAD",
    "1f896 |RIGHTWARDS WHITE ARROW WITHIN TRIANGLE ARROWHEAD",
    "1f897 |DOWNWARDS WHITE ARROW WITHIN TRIANGLE ARROWHEAD",
    "1f898 |LEFTWARDS ARROW WITH NOTCHED TAIL|UPWARDS ARROW WITH NOTCHED TAIL",
    "1f89a |RIGHTWARDS ARROW WITH NOTCHED TAIL|DOWNWARDS ARROW WITH NOTCHED TAIL",
    "1f89c HEAVY ARROW SHAFT WIDTH |ONE|TWO THIRDS|ONE HALF|ONE THIRD",
    "1f8a0 |LEFTWARDS BOTTOM-SHADED WHITE ARROW",
    "1f8a1 |RIGHTWARDS BOTTOM SHADED WHITE ARROW|LEFTWARDS TOP SHADED WHITE ARROW",
    "1f8a3 |RIGHTWARDS TOP SHADED WHITE ARROW|LEFTWARDS LEFT-SHADED WHITE ARROW",
    "1f8a5 |RIGHTWARDS RIGHT-SHADED WHITE ARROW|LEFTWARDS RIGHT-SHADED WHITE ARROW",
    "1f8a7 |RIGHTWARDS LEFT-SHADED WHITE ARROW|LEFTWARDS BACK-TILTED SHADOWED WHITE ARROW",
    "1f8a9 |RIGHTWARDS BACK-TILTED SHADOWED WHITE ARROW",
    "1f8aa |LEFTWARDS FRONT-TILTED SHADOWED WHITE ARROW",
    "1f8ab |RIGHTWARDS FRONT-TILTED SHADOWED WHITE ARROW",
    "1f8ac WHITE ARROW SHAFT WIDTH |ONE|TWO THIRDS",
    "1f8b0 ARROW POINTING |UPWARDS THEN NORTH WEST|RIGHTWARDS THEN CURVING SOUTH WEST",
    "1f900 CIRCLED CROSS |FORMEE WITH FOUR DOTS|FORMEE WITH TWO DOTS|FORMEE",
    "1f903 LEFT HALF CIRCLE WITH |FOUR DOTS|THREE DOTS|TWO DOTS|DOT",
    "1f907 |LEFT HALF CIRCLE",
    "1f908 DOWNWARD FACING |HOOK|NOTCHED HOOK|HOOK WITH DOT|NOTCHED HOOK WITH DOT",
    "1f90c |PINCHED FINGERS|WHITE HEART",
    "1f90e |BROWN HEART|PINCHING HAND|ZIPPER-MOUTH FACE|MONEY-MOUTH FACE|FACE WITH THERMOMETER",
    "1f913 |NERD FACE|THINKING FACE|FACE WITH HEAD-BANDAGE|ROBOT FACE|HUGGING FACE",
    "1f918 |SIGN OF THE HORNS|CALL ME HAND|RAISED BACK OF HAND|LEFT-FACING FIST|RIGHT-FACING FIST",
    "1f91d |HANDSHAKE|HAND WITH INDEX AND MIDDLE FINGERS CROSSED|I LOVE YOU HAND SIGN",
    "1f920 |FACE WITH COWBOY HAT|CLOWN FACE|NAUSEATED FACE|ROLLING ON THE FLOOR LAUGHING",
    "1f924 |DROOLING FACE|LYING FACE|FACE PALM|SNEEZING FACE|FACE WITH ONE EYEBROW RAISED",
    "1f929 GRINNING FACE WITH |STAR EYES|ONE LARGE AND ONE SMALL EYE",
    "1f92b |FACE WITH FINGER COVERING CLOSED LIPS|SERIOUS FACE WITH SYMBOLS COVERING MOUTH",
    "1f92d |SMILING FACE WITH SMILING EYES AND HAND COVERING MOUTH|FACE WITH OPEN MOUTH VOMITING",
    "1f92f |SHOCKED FACE WITH EXPLODING HEAD|PREGNANT WOMAN|BREAST-FEEDING|PALMS UP TOGETHER",
    "1f933 |SELFIE|PRINCE|MAN IN TUXEDO|MOTHER CHRISTMAS|SHRUG|PERSON DOING CARTWHEEL",
    "1f939 |JUGGLING|FENCER|MODERN PENTATHLON|WRESTLERS|WATER POLO|HANDBALL",
    "1f93f |DIVING MASK|WILTED FLOWER|DRUM WITH DRUMSTICKS|CLINKING GLASSES|TUMBLER GLASS",
    "1f944 |SPOON|GOAL NET|RIFLE|FIRST PLACE MEDAL|SECOND PLACE MEDAL|THIRD PLACE MEDAL",
    "1f94a |BOXING GLOVE|MARTIAL ARTS UNIFORM|CURLING STONE|LACROSSE STICK AND BALL",
    "1f94e |SOFTBALL|FLYING DISC|CROISSANT|AVOCADO|CUCUMBER|BACON|POTATO|CARROT|BAGUETTE BREAD",
    "1f957 |GREEN SALAD|SHALLOW PAN OF FOOD|STUFFED FLATBREAD|EGG|GLASS OF MILK|PEANUTS",
    "1f95d |KIWIFRUIT|PANCAKES|DUMPLING|FORTUNE COOKIE|TAKEOUT BOX|CHOPSTICKS|BOWL WITH SPOON",
    "1f964 |CUP WITH STRAW|COCONUT|BROCCOLI|PIE|PRETZEL|CUT OF MEAT|SANDWICH|CANNED FOOD",
    "1f96c |LEAFY GREEN|MANGO|MOON CAKE|BAGEL|SMILING FACE WITH SMILING EYES AND THREE HEARTS",
    "1f971 |YAWNING FACE|SMILING FACE WITH TEAR|FACE WITH PARTY HORN AND PARTY HAT",
    "1f974 |FACE WITH UNEVEN EYES AND WAVY MOUTH|OVERHEATED FACE|FREEZING FACE",
    "1f977 |NINJA|DISGUISED FACE|FACE HOLDING BACK TEARS|FACE WITH PLEADING EYES|SARI",
    "1f97c |LAB COAT|GOGGLES|HIKING BOOT|FLAT SHOE|CRAB|LION FACE|SCORPION|TURKEY|UNICORN FACE",
    "1f985 |EAGLE|DUCK|BAT|SHARK|OWL|FOX FACE|BUTTERFLY|DEER|GORILLA|LIZARD|RHINOCEROS",
    "1f990 |SHRIMP|SQUID|GIRAFFE FACE|ZEBRA FACE|HEDGEHOG|SAUROPOD|T-REX|CRICKET|KANGAROO|LLAMA",
    "1f99a |PEACOCK|HIPPOPOTAMUS|PARROT|RACCOON|LOBSTER|MOSQUITO|MICROBE|BADGER|SWAN|MAMMOTH|DODO",
    "1f9a5 |SLOTH|OTTER|ORANGUTAN|SKUNK|FLAMINGO|OYSTER|BEAVER|BISON|SEAL|GUIDE DOG|PROBING CANE",
    "1f9b0 EMOJI COMPONENT |RED HAIR|CURLY HAIR|BALD|WHITE HAIR",
    "1f9b4 |BONE|LEG|FOOT|TOOTH|SUPERHERO",
    "1f9b9 |SUPERVILLAIN|SAFETY VEST|EAR WITH HEARING AID|MOTORIZED WHEELCHAIR|MANUAL WHEELCHAIR",
    "1f9be |MECHANICAL ARM|MECHANICAL LEG|CHEESE WEDGE|CUPCAKE|SALT SHAKER|BEVERAGE BOX|GARLIC",
    "1f9c5 |ONION|FALAFEL|WAFFLE|BUTTER|MATE DRINK|ICE CUBE|BUBBLE TEA|TROLL|STANDING PERSON",
    "1f9ce |KNEELING PERSON|DEAF PERSON|FACE WITH MONOCLE|ADULT|CHILD|OLDER ADULT|BEARDED PERSON",
    "1f9d5 PERSON |WITH HEADSCARF|IN STEAMY ROOM|CLIMBING|IN LOTUS POSITION",
    "1f9d9 |MAGE|FAIRY|VAMPIRE|MERPERSON|ELF|GENIE|ZOMBIE|BRAIN|ORANGE HEART",
    "1f9e2 |BILLED CAP|SCARF|GLOVES|COAT|SOCKS|RED GIFT ENVELOPE|FIRECRACKER|JIGSAW PUZZLE PIECE",
    "1f9ea |TEST TUBE|PETRI DISH|DNA DOUBLE HELIX|COMPASS|ABACUS|FIRE EXTINGUISHER",
    "1f9f0 |TOOLBOX|BRICK|MAGNET|LUGGAGE|LOTION BOTTLE|SPOOL OF THREAD|BALL OF YARN|SAFETY PIN",
    "1f9f8 |TEDDY BEAR|BROOM|BASKET|ROLL OF PAPER|BAR OF SOAP|SPONGE|RECEIPT|NAZAR AMULET",
    "1fa00 NEUTRAL CHESS |KING|QUEEN|ROOK|BISHOP|KNIGHT|PAWN",
    "1fa06 |WHITE CHESS KNIGHT ROTATED FORTY-FIVE DEGREES",
    "1fa07 |BLACK CHESS KNIGHT ROTATED FORTY-FIVE DEGREES",
    "1fa08 |NEUTRAL CHESS KNIGHT ROTATED FORTY-FIVE DEGREES",
    "1fa09 WHITE CHESS |KING ROTATED NINETY DEGREES|QUEEN ROTATED NINETY DEGREES",
    "1fa0b WHITE CHESS |ROOK ROTATED NINETY DEGREES|BISHOP ROTATED NINETY DEGREES",
    "1fa0d WHITE CHESS |KNIGHT ROTATED NINETY DEGREES|PAWN ROTATED NINETY DEGREES",
    "1fa0f BLACK CHESS |KING ROTATED NINETY DEGREES|QUEEN ROTATED NINETY DEGREES",
    "1fa11 BLACK CHESS |ROOK ROTATED NINETY DEGREES|BISHOP ROTATED NINETY DEGREES",
    "1fa13 BLACK CHESS |KNIGHT ROTATED NINETY DEGREES|PAWN ROTATED NINETY DEGREES",
    "1fa15 NEUTRAL CHESS |KING ROTATED NINETY DEGREES|QUEEN ROTATED NINETY DEGREES",
    "1fa17 NEUTRAL CHESS |ROOK ROTATED NINETY DEGREES|BISHOP ROTATED NINETY DEGREES",
    "1fa19 NEUTRAL CHESS |KNIGHT ROTATED NINETY DEGREES|PAWN ROTATED NINETY DEGREES",
    "1fa1b |WHITE CHESS KNIGHT ROTATED ONE HUNDRED THIRTY-FIVE DEGREES",
    "1fa1c |BLACK CHESS KNIGHT ROTATED ONE HUNDRED THIRTY-FIVE DEGREES",
    "1fa1d |NEUTRAL CHESS KNIGHT ROTATED ONE HUNDRED THIRTY-FIVE DEGREES",
    "1fa1e WHITE CHESS TURNED |KING|QUEEN|ROOK|BISHOP|KNIGHT|PAWN",
    "1fa24 BLACK CHESS TURNED |KING|QUEEN|ROOK|BISHOP|KNIGHT|PAWN",
    "1fa2a NEUTRAL CHESS TURNED |KING|QUEEN|ROOK|BISHOP|KNIGHT|PAWN",
    "1fa30 |WHITE CHESS KNIGHT ROTATED TWO HUNDRED TWENTY-FIVE DEGREES",
    "1fa31 |BLACK CHESS KNIGHT ROTATED TWO HUNDRED TWENTY-FIVE DEGREES",
    "1fa32 |NEUTRAL CHESS KNIGHT ROTATED TWO HUNDRED TWENTY-FIVE DEGREES",
    "1fa33 |WHITE CHESS KING ROTATED TWO HUNDRED SEVENTY DEGREES",
    "1fa34 |WHITE CHESS QUEEN ROTATED TWO HUNDRED SEVENTY DEGREES",
    "1fa35 |WHITE CHESS ROOK ROTATED TWO HUNDRED SEVENTY DEGREES",
    "1fa36 |WHITE CHESS BISHOP ROTATED TWO HUNDRED SEVENTY DEGREES",
    "1fa37 |WHITE CHESS KNIGHT ROTATED TWO HUNDRED SEVENTY DEGREES",
    "1fa38 |WHITE CHESS PAWN ROTATED TWO HUNDRED SEVENTY DEGREES",
    "1fa39 |BLACK CHESS KING ROTATED TWO HUNDRED SEVENTY DEGREES",
    "1fa3a |BLACK CHESS QUEEN ROTATED TWO HUNDRED SEVENTY DEGREES",
    "1fa3b |BLACK CHESS ROOK ROTATED TWO HUNDRED SEVENTY DEGREES",
    "1fa3c |BLACK CHESS BISHOP ROTATED TWO HUNDRED SEVENTY DEGREES",
    "1fa3d |BLACK CHESS KNIGHT ROTATED TWO HUNDRED SEVENTY DEGREES",
    "1fa3e |BLACK CHESS PAWN ROTATED TWO HUNDRED SEVENTY DEGREES",
    "1fa3f |NEUTRAL CHESS KING ROTATED TWO HUNDRED SEVENTY DEGREES",
    "1fa40 |NEUTRAL CHESS QUEEN ROTATED TWO HUNDRED SEVENTY DEGREES",
    "1fa41 |NEUTRAL CHESS ROOK ROTATED TWO HUNDRED SEVENTY DEGREES",
    "1fa42 |NEUTRAL CHESS BISHOP ROTATED TWO HUNDRED SEVENTY DEGREES",
    "1fa43 |NEUTRAL CHESS KNIGHT ROTATED TWO HUNDRED SEVENTY DEGREES",
    "1fa44 |NEUTRAL CHESS PAWN ROTATED TWO HUNDRED SEVENTY DEGREES",
    "1fa45 |WHITE CHESS KNIGHT ROTATED THREE HUNDRED FIFTEEN DEGREES",
    "1fa46 |BLACK CHESS KNIGHT ROTATED THREE HUNDRED FIFTEEN DEGREES",
    "1fa47 |NEUTRAL CHESS KNIGHT ROTATED THREE HUNDRED FIFTEEN DEGREES",
    "1fa48 |WHITE CHESS EQUIHOPPER|BLACK CHESS EQUIHOPPER",
    "1fa4a |NEUTRAL CHESS EQUIHOPPER|WHITE CHESS EQUIHOPPER ROTATED NINETY DEGREES",
    "1fa4c |BLACK CHESS EQUIHOPPER ROTATED NINETY DEGREES",
    "1fa4d |NEUTRAL CHESS EQUIHOPPER ROTATED NINETY DEGREES",
    "1fa4e WHITE CHESS |KNIGHT-QUEEN|KNIGHT-ROOK|KNIGHT-BISHOP",
    "1fa51 BLACK CHESS |KNIGHT-QUEEN|KNIGHT-ROOK|KNIGHT-BISHOP",
    "1fa60 XIANGQI RED |GENERAL|MANDARIN|ELEPHANT|HORSE|CHARIOT|CANNON|SOLDIER",
    "1fa67 XIANGQI BLACK |GENERAL|MANDARIN|ELEPHANT|HORSE|CHARIOT|CANNON|SOLDIER",
    "1fa70 |BALLET SHOES|ONE-PIECE SWIMSUIT|BRIEFS|SHORTS|THONG SANDAL",
    "1fa78 |DROP OF BLOOD|ADHESIVE BANDAGE|STETHOSCOPE|X-RAY|CRUTCH",
    "1fa80 |YO-YO|KITE|PARACHUTE|BOOMERANG|MAGIC WAND|PINATA|NESTING DOLLS",
    "1fa90 |RINGED PLANET|CHAIR",
    "1fa92 |RAZOR|AXE|DIYA LAMP|BANJO|MILITARY HELMET|ACCORDION|LONG DRUM|COIN|CARPENTRY SAW",
    "1fa9b |SCREWDRIVER|LADDER|HOOK|MIRROR|WINDOW|PLUNGER|SEWING NEEDLE|KNOT|BUCKET|MOUSE TRAP",
    "1faa5 |TOOTHBRUSH|HEADSTONE|PLACARD|ROCK|MIRROR BALL|IDENTIFICATION CARD|LOW BATTERY|HAMSA",
    "1fab0 |FLY",
    "1fab1 |WORM|BEETLE|COCKROACH|POTTED PLANT|WOOD|FEATHER|LOTUS|CORAL|EMPTY NEST|NEST WITH EGGS",
    "1fac0 |ANATOMICAL HEART|LUNGS|PEOPLE HUGGING|PREGNANT MAN|PREGNANT PERSON|PERSON WITH CROWN",
    "1fad0 |BLUEBERRIES|BELL PEPPER|OLIVE|FLATBREAD|TAMALE|FONDUE|TEAPOT|POURING LIQUID|BEANS|JAR",
    "1fae0 |MELTING FACE|SALUTING FACE",
    "1fae2 FACE WITH |OPEN EYES AND HAND OVER MOUTH|PEEKING EYE|DIAGONAL MOUTH",
    "1fae5 |DOTTED LINE FACE|BITING LIP|BUBBLES",
    "1faf0 |HAND WITH INDEX FINGER AND THUMB CROSSED|RIGHTWARDS HAND",
    "1faf2 |LEFTWARDS HAND|PALM DOWN HAND|PALM UP HAND|INDEX POINTING AT THE VIEWER|HEART HANDS",
    "1fb00 BLOCK |SEXTANT-1|SEXTANT-2|SEXTANT-12|SEXTANT-3",
    "1fb04 BLOCK |SEXTANT-13|SEXTANT-23|SEXTANT-123|SEXTANT-4|SEXTANT-14|SEXTANT-24|SEXTANT-124",
    "1fb0b BLOCK |SEXTANT-34|SEXTANT-134|SEXTANT-234|SEXTANT-1234|SEXTANT-5|SEXTANT-15|SEXTANT-25",
    "1fb12 BLOCK |SEXTANT-125|SEXTANT-35|SEXTANT-235|SEXTANT-1235|SEXTANT-45|SEXTANT-145",
    "1fb18 BLOCK |SEXTANT-245|SEXTANT-1245|SEXTANT-345|SEXTANT-1345|SEXTANT-2345|SEXTANT-12345",
    "1fb1e BLOCK |SEXTANT-6|SEXTANT-16|SEXTANT-26|SEXTANT-126|SEXTANT-36|SEXTANT-136|SEXTANT-236",
    "1fb25 BLOCK |SEXTANT-1236|SEXTANT-46|SEXTANT-146|SEXTANT-1246|SEXTANT-346|SEXTANT-1346",
    "1fb2b BLOCK |SEXTANT-2346|SEXTANT-12346|SEXTANT-56|SEXTANT-156|SEXTANT-256|SEXTANT-1256",
    "1fb31 BLOCK |SEXTANT-356|SEXTANT-1356|SEXTANT-2356|SEXTANT-12356|SEXTANT-456|SEXTANT-1456",
    "1fb37 BLOCK |SEXTANT-2456|SEXTANT-12456|SEXTANT-3456|SEXTANT-13456|SEXTANT-23456",
    "1fb3c LOWER LEFT BLOCK DIAGONAL LOWER MIDDLE LEFT TO LOWER |CENTRE|RIGHT",
    "1fb3e LOWER LEFT BLOCK DIAGONAL UPPER MIDDLE LEFT TO LOWER |CENTRE|RIGHT",
    "1fb40 |LOWER LEFT BLOCK DIAGONAL UPPER LEFT TO LOWER CENTRE",
    "1fb41 LOWER RIGHT BLOCK DIAGONAL UPPER MIDDLE LEFT TO UPPER |CENTRE|RIGHT",
    "1fb43 LOWER RIGHT BLOCK DIAGONAL LOWER MIDDLE LEFT TO UPPER |CENTRE|RIGHT",
    "1fb45 |LOWER RIGHT BLOCK DIAGONAL LOWER LEFT TO UPPER CENTRE",
    "1fb46 |LOWER RIGHT BLOCK DIAGONAL LOWER MIDDLE LEFT TO UPPER MIDDLE RIGHT",
    "1fb47 |LOWER RIGHT BLOCK DIAGONAL LOWER CENTRE TO LOWER MIDDLE RIGHT",
    "1fb48 |LOWER RIGHT BLOCK DIAGONAL LOWER LEFT TO LOWER MIDDLE RIGHT",
    "1fb49 |LOWER RIGHT BLOCK DIAGONAL LOWER CENTRE TO UPPER MIDDLE RIGHT",
    "1fb4a LOWER RIGHT BLOCK DIAGONAL LOWER |LEFT TO UPPER MIDDLE RIGHT|CENTRE TO UPPER RIGHT",
    "1fb4c |LOWER LEFT BLOCK DIAGONAL UPPER CENTRE TO UPPER MIDDLE RIGHT",
    "1fb4d |LOWER LEFT BLOCK DIAGONAL UPPER LEFT TO UPPER MIDDLE RIGHT",
    "1fb4e |LOWER LEFT BLOCK DIAGONAL UPPER CENTRE TO LOWER MIDDLE RIGHT",
    "1fb4f LOWER LEFT BLOCK DIAGONAL UPPER |LEFT TO LOWER MIDDLE RIGHT|CENTRE TO LOWER RIGHT",
    "1fb51 |LOWER LEFT BLOCK DIAGONAL UPPER MIDDLE LEFT TO LOWER MIDDLE RIGHT",
    "1fb52 UPPER RIGHT BLOCK DIAGONAL LOWER MIDDLE LEFT TO LOWER |CENTRE|RIGHT",
    "1fb54 UPPER RIGHT BLOCK DIAGONAL UPPER MIDDLE LEFT TO LOWER |CENTRE|RIGHT",
    "1fb56 |UPPER RIGHT BLOCK DIAGONAL UPPER LEFT TO LOWER CENTRE",
    "1fb57 UPPER LEFT BLOCK DIAGONAL UPPER MIDDLE LEFT TO UPPER |CENTRE|RIGHT",
    "1fb59 UPPER LEFT BLOCK DIAGONAL LOWER MIDDLE LEFT TO UPPER |CENTRE|RIGHT",
    "1fb5b |UPPER LEFT BLOCK DIAGONAL LOWER LEFT TO UPPER CENTRE",
    "1fb5c |UPPER LEFT BLOCK DIAGONAL LOWER MIDDLE LEFT TO UPPER MIDDLE RIGHT",
    "1fb5d |UPPER LEFT BLOCK DIAGONAL LOWER CENTRE TO LOWER MIDDLE RIGHT",
    "1fb5e |UPPER LEFT BLOCK DIAGONAL LOWER LEFT TO LOWER MIDDLE RIGHT",
    "1fb5f |UPPER LEFT BLOCK DIAGONAL LOWER CENTRE TO UPPER MIDDLE RIGHT",
    "1fb60 UPPER LEFT BLOCK DIAGONAL LOWER |LEFT TO UPPER MIDDLE RIGHT|CENTRE TO UPPER RIGHT",
    "1fb62 |UPPER RIGHT BLOCK DIAGONAL UPPER CENTRE TO UPPER MIDDLE RIGHT",
    "1fb63 |UPPER RIGHT BLOCK DIAGONAL UPPER LEFT TO UPPER MIDDLE RIGHT",
    "1fb64 |UPPER RIGHT BLOCK DIAGONAL UPPER CENTRE TO LOWER MIDDLE RIGHT",
    "1fb65 UPPER RIGHT BLOCK DIAGONAL UPPER |LEFT TO LOWER MIDDLE RIGHT|CENTRE TO LOWER RIGHT",
    "1fb67 |UPPER RIGHT BLOCK DIAGONAL UPPER MIDDLE LEFT TO LOWER MIDDLE RIGHT",
    "1fb68 |UPPER AND RIGHT AND LOWER TRIANGULAR THREE QUARTERS BLOCK",
    "1fb69 |LEFT AND LOWER AND RIGHT TRIANGULAR THREE QUARTERS BLOCK",
    "1fb6a |UPPER AND LEFT AND LOWER TRIANGULAR THREE QUARTERS BLOCK",
    "1fb6b LEFT |AND UPPER AND RIGHT TRIANGULAR THREE QUARTERS BLOCK|TRIANGULAR ONE QUARTER BLOCK",
    "1fb6d |UPPER TRIANGULAR ONE QUARTER BLOCK",
    "1fb6e |RIGHT TRIANGULAR ONE QUARTER BLOCK|LOWER TRIANGULAR ONE QUARTER BLOCK",
    "1fb70 VERTICAL ONE EIGHTH |BLOCK-2|BLOCK-3|BLOCK-4|BLOCK-5|BLOCK-6|BLOCK-7",
    "1fb76 HORIZONTAL ONE EIGHTH |BLOCK-2|BLOCK-3|BLOCK-4|BLOCK-5|BLOCK-6|BLOCK-7",
    "1fb7c LEFT AND |LOWER ONE EIGHTH BLOCK|UPPER ONE EIGHTH BLOCK",
    "1fb7e RIGHT AND |UPPER ONE EIGHTH BLOCK|LOWER ONE EIGHTH BLOCK",
    "1fb80 |UPPER AND LOWER ONE EIGHTH BLOCK",
    "1fb81 |HORIZONTAL ONE EIGHTH BLOCK-1358|UPPER ONE QUARTER BLOCK",
    "1fb83 UPPER |THREE EIGHTHS BLOCK|FIVE EIGHTHS BLOCK|THREE QUARTERS BLOCK|SEVEN EIGHTHS BLOCK",
    "1fb87 RIGHT |ONE QUARTER BLOCK|THREE EIGHTHS BLOCK|FIVE EIGHTHS BLOCK|THREE QUARTERS BLOCK",
    "1fb8b |RIGHT SEVEN EIGHTHS BLOCK|LEFT HALF MEDIUM SHADE",
    "1fb8d |RIGHT HALF MEDIUM SHADE|UPPER HALF MEDIUM SHADE|LOWER HALF MEDIUM SHADE",
    "1fb90 |INVERSE MEDIUM SHADE|UPPER HALF BLOCK AND LOWER HALF INVERSE MEDIUM SHADE",
    "1fb92 |UPPER HALF INVERSE MEDIUM SHADE AND LOWER HALF BLOCK",
    "1fb94 |LEFT HALF INVERSE MEDIUM SHADE AND RIGHT HALF BLOCK",
    "1fb95 |CHECKER BOARD FILL|INVERSE CHECKER BOARD FILL|HEAVY HORIZONTAL FILL",
    "1fb98 UPPER |LEFT TO LOWER RIGHT FILL|RIGHT TO LOWER LEFT FILL",
    "1fb9a |UPPER AND LOWER TRIANGULAR HALF BLOCK|LEFT AND RIGHT TRIANGULAR HALF BLOCK",
    "1fb9c UPPER |LEFT TRIANGULAR MEDIUM SHADE|RIGHT TRIANGULAR MEDIUM SHADE",
    "1fb9e LOWER |RIGHT TRIANGULAR MEDIUM SHADE|LEFT TRIANGULAR MEDIUM SHADE",
    "1fba0 BOX DRAWINGS LIGHT DIAGONAL UPPER CENTRE TO MIDDLE |LEFT|RIGHT",
    "1fba2 BOX DRAWINGS LIGHT DIAGONAL MIDDLE |LEFT TO LOWER CENTRE|RIGHT TO LOWER CENTRE",
    "1fba4 |BOX DRAWINGS LIGHT DIAGONAL UPPER CENTRE TO MIDDLE LEFT TO LOWER CENTRE",
    "1fba5 |BOX DRAWINGS LIGHT DIAGONAL UPPER CENTRE TO MIDDLE RIGHT TO LOWER CENTRE",
    "1fba6 |BOX DRAWINGS LIGHT DIAGONAL MIDDLE LEFT TO LOWER CENTRE TO MIDDLE RIGHT",
    "1fba7 |BOX DRAWINGS LIGHT DIAGONAL MIDDLE LEFT TO UPPER CENTRE TO MIDDLE RIGHT",
    "1fba8 |BOX DRAWINGS LIGHT DIAGONAL UPPER CENTRE TO MIDDLE LEFT AND MIDDLE RIGHT " ++
      "TO LOWER CENTRE",
    "1fba9 |BOX DRAWINGS LIGHT DIAGONAL UPPER CENTRE TO MIDDLE RIGHT AND MIDDLE LEFT " ++
      "TO LOWER CENTRE",
    "1fbaa |BOX DRAWINGS LIGHT DIAGONAL UPPER CENTRE TO MIDDLE RIGHT TO LOWER CENTRE " ++
      "TO MIDDLE LEFT",
    "1fbab |BOX DRAWINGS LIGHT DIAGONAL UPPER CENTRE TO MIDDLE LEFT TO LOWER CENTRE " ++
      "TO MIDDLE RIGHT",
    "1fbac |BOX DRAWINGS LIGHT DIAGONAL MIDDLE LEFT TO UPPER CENTRE TO MIDDLE RIGHT " ++
      "TO LOWER CENTRE",
    "1fbad |BOX DRAWINGS LIGHT DIAGONAL MIDDLE RIGHT TO UPPER CENTRE TO MIDDLE LEFT " ++
      "TO LOWER CENTRE",
    "1fbae BOX DRAWINGS LIGHT |DIAGONAL DIAMOND|HORIZONTAL WITH VERTICAL STROKE",
    "1fbb0 |ARROWHEAD-SHAPED POINTER|INVERSE CHECK MARK|LEFT HALF RUNNING MAN",
    "1fbb3 |RIGHT HALF RUNNING MAN|INVERSE DOWNWARDS ARROW WITH TIP LEFTWARDS",
    "1fbb5 |LEFTWARDS ARROW AND UPPER AND LOWER ONE EIGHTH BLOCK",
    "1fbb6 |RIGHTWARDS ARROW AND UPPER AND LOWER ONE EIGHTH BLOCK",
    "1fbb7 |DOWNWARDS ARROW AND RIGHT ONE EIGHTH BLOCK|UPWARDS ARROW AND RIGHT ONE EIGHTH BLOCK",
    "1fbb9 |LEFT HALF FOLDER|RIGHT HALF FOLDER|VOIDED GREEK CROSS|RIGHT OPEN SQUARED DOT",
    "1fbbd NEGATIVE DIAGONAL |CROSS|MIDDLE RIGHT TO LOWER CENTRE|DIAMOND",
    "1fbc0 |WHITE HEAVY SALTIRE WITH ROUNDED CORNERS",
    "1fbc1 |LEFT THIRD WHITE RIGHT POINTING INDEX|MIDDLE THIRD WHITE RIGHT POINTING INDEX",
    "1fbc3 |RIGHT THIRD WHITE RIGHT POINTING INDEX|NEGATIVE SQUARED QUESTION MARK|STICK FIGURE",
    "1fbc6 STICK FIGURE |WITH ARMS RAISED|LEANING LEFT|LEANING RIGHT|WITH DRESS",
    "1fbca |WHITE UP-POINTING CHEVRON",
    "1fbf0 SEGMENTED DIGIT |ZERO|ONE|TWO|THREE|FOUR|FIVE|SIX|SEVEN|EIGHT|NINE",
    "e0001 |LANGUAGE TAG",
    "e0020 TAG |SPACE|EXCLAMATION MARK|QUOTATION MARK",
    "e0023 TAG |NUMBER SIGN|DOLLAR SIGN|PERCENT SIGN|AMPERSAND|APOSTROPHE|LEFT PARENTHESIS",
    "e0029 TAG |RIGHT PARENTHESIS|ASTERISK|PLUS SIGN|COMMA|HYPHEN-MINUS|FULL STOP|SOLIDUS",
    "e0030 TAG DIGIT |ZERO|ONE|TWO|THREE|FOUR|FIVE|SIX|SEVEN|EIGHT|NINE",
    "e003a TAG |COLON|SEMICOLON",
    "e003c TAG |LESS-THAN SIGN|EQUALS SIGN|GREATER-THAN SIGN|QUESTION MARK|COMMERCIAL AT",
    "e0041 TAG LATIN CAPITAL LETTER |A|B|C|D|E|F|G|H|I|J|K|L|M|N|O|P|Q|R|S|T|U|V|W|X|Y|Z",
    "e005b |TAG LEFT SQUARE BRACKET",
    "e005c TAG |REVERSE SOLIDUS|RIGHT SQUARE BRACKET|CIRCUMFLEX ACCENT|LOW LINE|GRAVE ACCENT",
    "e0061 TAG LATIN SMALL LETTER |A|B|C|D|E|F|G|H|I|J|K|L|M|N|O|P|Q|R|S|T|U|V|W|X|Y|Z",
    "e007b |TAG LEFT CURLY BRACKET|TAG VERTICAL LINE|TAG RIGHT CURLY BRACKET|TAG TILDE|CANCEL TAG",
    "e0100 |VARIATION SELECTOR-17",
    "e0101 VARIATION |SELECTOR-18|SELECTOR-19|SELECTOR-20|SELECTOR-21|SELECTOR-22|SELECTOR-23",
    "e0107 VARIATION |SELECTOR-24|SELECTOR-25|SELECTOR-26|SELECTOR-27|SELECTOR-28|SELECTOR-29",
    "e010d VARIATION |SELECTOR-30|SELECTOR-31|SELECTOR-32|SELECTOR-33|SELECTOR-34|SELECTOR-35",
    "e0113 VARIATION |SELECTOR-36|SELECTOR-37|SELECTOR-38|SELECTOR-39|SELECTOR-40|SELECTOR-41",
    "e0119 VARIATION |SELECTOR-42|SELECTOR-43|SELECTOR-44|SELECTOR-45|SELECTOR-46|SELECTOR-47",
    "e011f VARIATION |SELECTOR-48|SELECTOR-49|SELECTOR-50|SELECTOR-51|SELECTOR-52|SELECTOR-53",
    "e0125 VARIATION |SELECTOR-54|SELECTOR-55|SELECTOR-56|SELECTOR-57|SELECTOR-58|SELECTOR-59",
    "e012b VARIATION |SELECTOR-60|SELECTOR-61|SELECTOR-62|SELECTOR-63|SELECTOR-64|SELECTOR-65",
    "e0131 VARIATION |SELECTOR-66|SELECTOR-67|SELECTOR-68|SELECTOR-69|SELECTOR-70|SELECTOR-71",
    "e0137 VARIATION |SELECTOR-72|SELECTOR-73|SELECTOR-74|SELECTOR-75|SELECTOR-76|SELECTOR-77",
    "e013d VARIATION |SELECTOR-78|SELECTOR-79|SELECTOR-80|SELECTOR-81|SELECTOR-82|SELECTOR-83",
    "e0143 VARIATION |SELECTOR-84|SELECTOR-85|SELECTOR-86|SELECTOR-87|SELECTOR-88|SELECTOR-89",
    "e0149 VARIATION |SELECTOR-90|SELECTOR-91|SELECTOR-92|SELECTOR-93|SELECTOR-94|SELECTOR-95",
    "e014f VARIATION |SELECTOR-96|SELECTOR-97|SELECTOR-98|SELECTOR-99|SELECTOR-100|SELECTOR-101",
    "e0155 VARIATION |SELECTOR-102|SELECTOR-103|SELECTOR-104|SELECTOR-105|SELECTOR-106",
    "e015a VARIATION |SELECTOR-107|SELECTOR-108|SELECTOR-109|SELECTOR-110|SELECTOR-111",
    "e015f VARIATION |SELECTOR-112|SELECTOR-113|SELECTOR-114|SELECTOR-115|SELECTOR-116",
    "e0164 VARIATION |SELECTOR-117|SELECTOR-118|SELECTOR-119|SELECTOR-120|SELECTOR-121",
    "e0169 VARIATION |SELECTOR-122|SELECTOR-123|SELECTOR-124|SELECTOR-125|SELECTOR-126",
    "e016e VARIATION |SELECTOR-127|SELECTOR-128|SELECTOR-129|SELECTOR-130|SELECTOR-131",
    "e0173 VARIATION |SELECTOR-132|SELECTOR-133|SELECTOR-134|SELECTOR-135|SELECTOR-136",
    "e0178 VARIATION |SELECTOR-137|SELECTOR-138|SELECTOR-139|SELECTOR-140|SELECTOR-141",
    "e017d VARIATION |SELECTOR-142|SELECTOR-143|SELECTOR-144|SELECTOR-145|SELECTOR-146",
    "e0182 VARIATION |SELECTOR-147|SELECTOR-148|SELECTOR-149|SELECTOR-150|SELECTOR-151",
    "e0187 VARIATION |SELECTOR-152|SELECTOR-153|SELECTOR-154|SELECTOR-155|SELECTOR-156",
    "e018c VARIATION |SELECTOR-157|SELECTOR-158|SELECTOR-159|SELECTOR-160|SELECTOR-161",
    "e0191 VARIATION |SELECTOR-162|SELECTOR-163|SELECTOR-164|SELECTOR-165|SELECTOR-166",
    "e0196 VARIATION |SELECTOR-167|SELECTOR-168|SELECTOR-169|SELECTOR-170|SELECTOR-171",
    "e019b VARIATION |SELECTOR-172|SELECTOR-173|SELECTOR-174|SELECTOR-175|SELECTOR-176",
    "e01a0 VARIATION |SELECTOR-177|SELECTOR-178|SELECTOR-179|SELECTOR-180|SELECTOR-181",
    "e01a5 VARIATION |SELECTOR-182|SELECTOR-183|SELECTOR-184|SELECTOR-185|SELECTOR-186",
    "e01aa VARIATION |SELECTOR-187|SELECTOR-188|SELECTOR-189|SELECTOR-190|SELECTOR-191",
    "e01af VARIATION |SELECTOR-192|SELECTOR-193|SELECTOR-194|SELECTOR-195|SELECTOR-196",
    "e01b4 VARIATION |SELECTOR-197|SELECTOR-198|SELECTOR-199|SELECTOR-200|SELECTOR-201",
    "e01b9 VARIATION |SELECTOR-202|SELECTOR-203|SELECTOR-204|SELECTOR-205|SELECTOR-206",
    "e01be VARIATION |SELECTOR-207|SELECTOR-208|SELECTOR-209|SELECTOR-210|SELECTOR-211",
    "e01c3 VARIATION |SELECTOR-212|SELECTOR-213|SELECTOR-214|SELECTOR-215|SELECTOR-216",
    "e01c8 VARIATION |SELECTOR-217|SELECTOR-218|SELECTOR-219|SELECTOR-220|SELECTOR-221",
    "e01cd VARIATION |SELECTOR-222|SELECTOR-223|SELECTOR-224|SELECTOR-225|SELECTOR-226",
    "e01d2 VARIATION |SELECTOR-227|SELECTOR-228|SELECTOR-229|SELECTOR-230|SELECTOR-231",
    "e01d7 VARIATION |SELECTOR-232|SELECTOR-233|SELECTOR-234|SELECTOR-235|SELECTOR-236",
    "e01dc VARIATION |SELECTOR-237|SELECTOR-238|SELECTOR-239|SELECTOR-240|SELECTOR-241",
    "e01e1 VARIATION |SELECTOR-242|SELECTOR-243|SELECTOR-244|SELECTOR-245|SELECTOR-246",
    "e01e6 VARIATION |SELECTOR-247|SELECTOR-248|SELECTOR-249|SELECTOR-250|SELECTOR-251",
    "e01eb VARIATION |SELECTOR-252|SELECTOR-253|SELECTOR-254|SELECTOR-255|SELECTOR-256"]

end Name
end Text
end DebugIndex
