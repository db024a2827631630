/-!
# The names of the kana, the syllables of Yi and Vai, and their neighbours

The names that Unicode 14 gives to the code points from U+3000 to U+D7FB.  A row
begins with its first code point and what its names have in common; the endings
of the names of that point and those behind it follow, each after a bar.
-/

namespace DebugIndex
namespace Text
namespace Name

/-- The rows of the table, in ascending order. -/
def syllablesRows : List String :=
  ["3000 IDEOGRAPHIC |SPACE|COMMA|FULL STOP",
    "3003 |DITTO MARK|JAPANESE INDUSTRIAL STANDARD SYMBOL",
    "3005 IDEOGRAPHIC |ITERATION MARK|CLOSING MARK|NUMBER ZERO",
    "3008 |LEFT ANGLE BRACKET|RIGHT ANGLE BRACKET|LEFT DOUBLE ANGLE BRACKET",
    "300b |RIGHT DOUBLE ANGLE BRACKET|LEFT CORNER BRACKET|RIGHT CORNER BRACKET",
    "300e |LEFT WHITE CORNER BRACKET|RIGHT WHITE CORNER BRACKET|LEFT BLACK LENTICULAR BRACKET",
    "3011 |RIGHT BLACK LENTICULAR BRACKET|POSTAL MARK|GETA MARK|LEFT TORTOISE SHELL BRACKET",
    "3015 |RIGHT TORTOISE SHELL BRACKET|LEFT WHITE LENTICULAR BRACKET",
    "3017 |RIGHT WHITE LENTICULAR BRACKET|LEFT WHITE TORTOISE SHELL BRACKET",
    "3019 |RIGHT WHITE TORTOISE SHELL BRACKET|LEFT WHITE SQUARE BRACKET",
    "301b |RIGHT WHITE SQUARE BRACKET|WAVE DASH|REVERSED DOUBLE PRIME QUOTATION MARK",
    "301e |DOUBLE PRIME QUOTATION MARK|LOW DOUBLE PRIME QUOTATION MARK|POSTAL MARK FACE",
    "3021 HANGZHOU NUMERAL |ONE|TWO|THREE|FOUR|FIVE|SIX|SEVEN|EIGHT|NINE",
    "302a IDEOGRAPHIC |LEVEL TONE MARK|RISING TONE MARK|DEPARTING TONE MARK|ENTERING TONE MARK",
    "302e |HANGUL SINGLE DOT TONE MARK|HANGUL DOUBLE DOT TONE MARK|WAVY DASH",
    "3031 VERTICAL KANA REPEAT |MARK|WITH VOICED SOUND MARK|MARK UPPER HALF",
    "3034 VERTICAL KANA REPEAT |WITH VOICED SOUND MARK UPPER HALF|MARK LOWER HALF",
    "3036 |CIRCLED POSTAL MARK|IDEOGRAPHIC TELEGRAPH LINE FEED SEPARATOR SYMBOL",
    "3038 HANGZHOU NUMERAL |TEN|TWENTY|THIRTY",
    "303b |VERTICAL IDEOGRAPHIC ITERATION MARK|MASU MARK|PART ALTERNATION MARK",
    "303e IDEOGRAPHIC |VARIATION INDICATOR|HALF FILL SPACE",
    "3041 HIRAGANA LETTER |SMALL A|A|SMALL I|I|SMALL U|U|SMALL E|E|SMALL O|O",
    "304b HIRAGANA LETTER |KA|GA|KI|GI|KU|GU|KE|GE|KO|GO|SA|ZA|SI|ZI|SU|ZU|SE|ZE|SO|ZO|TA|DA|TI",
    "3062 HIRAGANA LETTER |DI|SMALL TU|TU|DU|TE|DE|TO|DO|NA|NI|NU|NE|NO|HA|BA|PA|HI|BI|PI|HU|BU",
    "3077 HIRAGANA LETTER |PU|HE|BE|PE|HO|BO|PO|MA|MI|MU|ME|MO|SMALL YA|YA|SMALL YU|YU|SMALL YO",
    "3088 HIRAGANA LETTER |YO|RA|RI|RU|RE|RO|SMALL WA|WA|WI|WE|WO|N|VU|SMALL KA|SMALL KE",
    "3099 COMBINING KATAKANA-HIRAGANA |VOICED SOUND MARK|SEMI-VOICED SOUND MARK",
    "309b KATAKANA-HIRAGANA |VOICED SOUND MARK|SEMI-VOICED SOUND MARK",
    "309d HIRAGANA |ITERATION MARK|VOICED ITERATION MARK|DIGRAPH YORI",
    "30a0 |KATAKANA-HIRAGANA DOUBLE HYPHEN",
    "30a1 KATAKANA LETTER |SMALL A|A|SMALL I|I|SMALL U|U|SMALL E|E|SMALL O|O|KA|GA|KI|GI",
    "30af KATAKANA LETTER |KU|GU|KE|GE|KO|GO|SA|ZA|SI|ZI|SU|ZU|SE|ZE|SO|ZO|TA|DA|TI|DI|SMALL TU",
    "30c4 KATAKANA LETTER |TU|DU|TE|DE|TO|DO|NA|NI|NU|NE|NO|HA|BA|PA|HI|BI|PI|HU|BU|PU|HE",
    "30d9 KATAKANA LETTER |BE|PE|HO|BO|PO|MA|MI|MU|ME|MO|SMALL YA|YA|SMALL YU|YU|SMALL YO|YO|RA",
    "30ea KATAKANA LETTER |RI|RU|RE|RO|SMALL WA|WA|WI|WE|WO|N|VU|SMALL KA|SMALL KE|VA|VI|VE|VO",
    "30fb |KATAKANA MIDDLE DOT|KATAKANA-HIRAGANA PROLONGED SOUND MARK",
    "30fd KATAKANA |ITERATION MARK|VOICED ITERATION MARK|DIGRAPH KOTO",
    "3105 BOPOMOFO LETTER |B|P|M|F|D|T|N|L|G|K|H|J|Q|X|ZH|CH|SH|R|Z|C|S|A|O|E",
    "311d BOPOMOFO LETTER |EH|AI|EI|AU|OU|AN|EN|ANG|ENG|ER|I|U|IU|V|NG|GN|IH|O WITH DOT ABOVE|NN",
    "3131 HANGUL LETTER |KIYEOK|SSANGKIYEOK",
    "3133 HANGUL LETTER |KIYEOK-SIOS|NIEUN|NIEUN-CIEUC|NIEUN-HIEUH|TIKEUT|SSANGTIKEUT",
    "3139 HANGUL LETTER |RIEUL|RIEUL-KIYEOK|RIEUL-MIEUM|RIEUL-PIEUP|RIEUL-SIOS|RIEUL-THIEUTH",
    "313f HANGUL LETTER |RIEUL-PHIEUPH|RIEUL-HIEUH|MIEUM|PIEUP|SSANGPIEUP|PIEUP-SIOS",
    "3145 HANGUL LETTER |SIOS|SSANGSIOS|IEUNG|CIEUC|SSANGCIEUC|CHIEUCH|KHIEUKH|THIEUTH|PHIEUPH",
    "314e HANGUL LETTER |HIEUH|A|AE|YA|YAE|EO|E|YEO|YE|O|WA|WAE|OE|YO|U|WEO|WE|WI|YU|EU|YI|I",
    "3164 |HANGUL FILLER",
    "3165 HANGUL LETTER |SSANGNIEUN|NIEUN-TIKEUT|NIEUN-SIOS|NIEUN-PANSIOS",
    "3169 HANGUL LETTER |RIEUL-KIYEOK-SIOS|RIEUL-TIKEUT|RIEUL-PIEUP-SIOS|RIEUL-PANSIOS",
    "316d HANGUL LETTER |RIEUL-YEORINHIEUH|MIEUM-PIEUP|MIEUM-SIOS|MIEUM-PANSIOS|KAPYEOUNMIEUM",
    "3172 HANGUL LETTER |PIEUP-KIYEOK|PIEUP-TIKEUT|PIEUP-SIOS-KIYEOK|PIEUP-SIOS-TIKEUT",
    "3176 HANGUL LETTER |PIEUP-CIEUC|PIEUP-THIEUTH|KAPYEOUNPIEUP|KAPYEOUNSSANGPIEUP",
    "317a HANGUL LETTER |SIOS-KIYEOK|SIOS-NIEUN|SIOS-TIKEUT|SIOS-PIEUP|SIOS-CIEUC|PANSIOS",
    "3180 HANGUL LETTER |SSANGIEUNG|YESIEUNG|YESIEUNG-SIOS|YESIEUNG-PANSIOS|KAPYEOUNPHIEUPH",
    "3185 HANGUL LETTER |SSANGHIEUH|YEORINHIEUH|YO-YA|YO-YAE|YO-I|YU-YEO|YU-YE|YU-I|ARAEA|ARAEAE",
    "3190 IDEOGRAPHIC ANNOTATION |LINKING MARK|REVERSE MARK|ONE MARK|TWO MARK|THREE MARK",
    "3195 IDEOGRAPHIC ANNOTATION |FOUR MARK|TOP MARK|MIDDLE MARK|BOTTOM MARK|FIRST MARK",
    "319a IDEOGRAPHIC ANNOTATION |SECOND MARK|THIRD MARK|FOURTH MARK|HEAVEN MARK|EARTH MARK",
    "319f |IDEOGRAPHIC ANNOTATION MAN MARK|BOPOMOFO LETTER BU",
    "31a1 BOPOMOFO LETTER |ZI|JI|GU|EE|ENN|OO|ONN|IR|ANN|INN|UNN|IM|NGG|AINN|AUNN|AM|OM|ONG|INNN",
    "31b4 BOPOMOFO FINAL LETTER |P|T|K|H",
    "31b8 BOPOMOFO |LETTER GH|LETTER LH|LETTER ZY|FINAL LETTER G",
    "31bc BOPOMOFO LETTER |GW|KW|OE|AH",
    "31c0 CJK STROKE |T|WG|XG|BXG|SW|HZZ|HZG|HP|HZWG|SZWG|HZT|HZZP|HPWG",
    "31cd CJK STROKE |HZW|HZZZ|N|H|S|P|SP|D|HZ|HG|SZ|SWZ|ST|SG|PD|PZ|TN|SZZ|SWG|HXWG|HZZZG|PG|Q",
    "31f0 KATAKANA LETTER SMALL |KU|SI|SU|TO|NU|HA|HI|HU|HE|HO|MU|RA|RI|RU|RE|RO",
    "3200 PARENTHESIZED HANGUL |KIYEOK|NIEUN|TIKEUT|RIEUL|MIEUM",
    "3205 PARENTHESIZED HANGUL |PIEUP|SIOS|IEUNG|CIEUC|CHIEUCH|KHIEUKH|THIEUTH|PHIEUPH|HIEUH",
    "320e PARENTHESIZED HANGUL |KIYEOK A|NIEUN A|TIKEUT A|RIEUL A|MIEUM A|PIEUP A|SIOS A|IEUNG A",
    "3216 PARENTHESIZED HANGUL |CIEUC A|CHIEUCH A|KHIEUKH A|THIEUTH A|PHIEUPH A|HIEUH A|CIEUC U",
    "321d PARENTHESIZED KOREAN CHARACTER |OJEON|O HU",
    "3220 PARENTHESIZED IDEOGRAPH |ONE|TWO|THREE|FOUR|FIVE|SIX|SEVEN|EIGHT|NINE|TEN|MOON|FIRE",
    "322c PARENTHESIZED IDEOGRAPH |WATER|WOOD|METAL|EARTH|SUN|STOCK|HAVE|SOCIETY|NAME|SPECIAL",
    "3236 PARENTHESIZED IDEOGRAPH |FINANCIAL|CONGRATULATION|LABOR|REPRESENT|CALL|STUDY|SUPERVISE",
    "323d PARENTHESIZED IDEOGRAPH |ENTERPRISE|RESOURCE|ALLIANCE|FESTIVAL|REST|SELF|REACH",
    "3244 CIRCLED IDEOGRAPH |QUESTION|KINDERGARTEN|SCHOOL|KOTO",
    "3248 CIRCLED NUMBER |TEN ON BLACK SQUARE|TWENTY ON BLACK SQUARE",
    "324a CIRCLED NUMBER |THIRTY ON BLACK SQUARE|FORTY ON BLACK SQUARE|FIFTY ON BLACK SQUARE",
    "324d CIRCLED NUMBER |SIXTY ON BLACK SQUARE|SEVENTY ON BLACK SQUARE|EIGHTY ON BLACK SQUARE",
    "3250 |PARTNERSHIP SIGN",
    "3251 CIRCLED NUMBER TWENTY |ONE|TWO|THREE|FOUR|FIVE|SIX|SEVEN|EIGHT|NINE",
    "325a CIRCLED NUMBER |THIRTY|THIRTY ONE|THIRTY TWO|THIRTY THREE|THIRTY FOUR|THIRTY FIVE",
    "3260 CIRCLED HANGUL |KIYEOK|NIEUN|TIKEUT|RIEUL|MIEUM|PIEUP|SIOS|IEUNG|CIEUC|CHIEUCH|KHIEUKH",
    "326b CIRCLED HANGUL |THIEUTH|PHIEUPH|HIEUH|KIYEOK A|NIEUN A|TIKEUT A|RIEUL A|MIEUM A",
    "3273 CIRCLED HANGUL |PIEUP A|SIOS A|IEUNG A|CIEUC A|CHIEUCH A|KHIEUKH A|THIEUTH A|PHIEUPH A",
    "327b CIRCLED |HANGUL HIEUH A|KOREAN CHARACTER CHAMKO|KOREAN CHARACTER JUEUI|HANGUL IEUNG U",
    "327f |KOREAN STANDARD SYMBOL",
    "3280 CIRCLED IDEOGRAPH |ONE|TWO",
    "3282 CIRCLED IDEOGRAPH |THREE|FOUR|FIVE|SIX|SEVEN|EIGHT|NINE|TEN|MOON|FIRE|WATER|WOOD|METAL",
    "328f CIRCLED IDEOGRAPH |EARTH|SUN|STOCK|HAVE|SOCIETY|NAME|SPECIAL|FINANCIAL|CONGRATULATION",
    "3298 CIRCLED IDEOGRAPH |LABOR|SECRET|MALE|FEMALE|SUITABLE|EXCELLENT|PRINT|ATTENTION",
    "32a0 CIRCLED IDEOGRAPH |ITEM|REST|COPY|CORRECT|HIGH|CENTRE|LOW|LEFT|RIGHT|MEDICINE",
    "32aa CIRCLED IDEOGRAPH |RELIGION|STUDY|SUPERVISE|ENTERPRISE|RESOURCE|ALLIANCE|NIGHT",
    "32b1 CIRCLED NUMBER |THIRTY SIX|THIRTY SEVEN|THIRTY EIGHT|THIRTY NINE|FORTY",
    "32b6 CIRCLED NUMBER FORTY |ONE|TWO|THREE|FOUR|FIVE|SIX|SEVEN|EIGHT|NINE",
    "32bf |CIRCLED NUMBER FIFTY",
    "32c0 IDEOGRAPHIC TELEGRAPH SYMBOL FOR |JANUARY|FEBRUARY|MARCH|APRIL|MAY",
    "32c5 IDEOGRAPHIC TELEGRAPH SYMBOL FOR |JUNE|JULY|AUGUST|SEPTEMBER|OCTOBER|NOVEMBER|DECEMBER",
    "32cc |SQUARE HG|SQUARE ERG|SQUARE EV|LIMITED LIABILITY SIGN",
    "32d0 CIRCLED KATAKANA |A|I|U|E|O|KA|KI|KU|KE|KO|SA|SI|SU|SE|SO|TA|TI|TU|TE|TO|NA|NI|NU|NE",
    "32e8 CIRCLED KATAKANA |NO|HA|HI|HU|HE|HO|MA|MI|MU|ME|MO|YA|YU|YO|RA|RI|RU|RE|RO|WA|WI|WE|WO",
    "32ff SQUARE |ERA NAME REIWA|APAATO|ARUHUA|ANPEA|AARU|ININGU|INTI|UON|ESUKUUDO",
    "3308 SQUARE |EEKAA|ONSU|OOMU|KAIRI|KARATTO|KARORII|GARON|GANMA|GIGA|GINII|KYURII|GIRUDAA",
    "3314 SQUARE |KIRO|KIROGURAMU|KIROMEETORU|KIROWATTO|GURAMU|GURAMUTON|KURUZEIRO|KUROONE|KEESU",
    "331d SQUARE |KORUNA|KOOPO|SAIKURU|SANTIIMU|SIRINGU|SENTI|SENTO|DAASU|DESI|DORU|TON|NANO",
    "3329 SQUARE |NOTTO|HAITU|PAASENTO|PAATU|BAARERU|PIASUTORU|PIKURU|PIKO|BIRU|HUARADDO|HUIITO",
    "3334 SQUARE |BUSSYERU|HURAN|HEKUTAARU|PESO|PENIHI|HERUTU|PENSU|PEEZI|BEETA|POINTO|BORUTO",
    "333f SQUARE |HON|PONDO|HOORU|HOON|MAIKURO|MAIRU|MAHHA|MARUKU|MANSYON|MIKURON|MIRI|MIRIBAARU",
    "334b SQUARE |MEGA|MEGATON|MEETORU|YAADO|YAARU|YUAN|RITTORU|RIRA|RUPII|RUUBURU|REMU|RENTOGEN",
    "3357 |SQUARE WATTO|IDEOGRAPHIC TELEGRAPH SYMBOL FOR HOUR ZERO",
    "3359 IDEOGRAPHIC TELEGRAPH SYMBOL FOR HOUR |ONE|TWO|THREE|FOUR|FIVE|SIX|SEVEN|EIGHT|NINE",
    "3362 IDEOGRAPHIC TELEGRAPH SYMBOL FOR HOUR |TEN|ELEVEN|TWELVE|THIRTEEN|FOURTEEN|FIFTEEN",
    "3368 IDEOGRAPHIC TELEGRAPH SYMBOL FOR HOUR |SIXTEEN|SEVENTEEN|EIGHTEEN|NINETEEN|TWENTY",
    "336d IDEOGRAPHIC TELEGRAPH SYMBOL FOR HOUR |TWENTY-ONE|TWENTY-TWO|TWENTY-THREE|TWENTY-FOUR",
    "3371 SQUARE |HPA|DA|AU|BAR|OV|PC|DM|DM SQUARED|DM CUBED|IU",
    "337b SQUARE ERA NAME |HEISEI|SYOUWA|TAISYOU|MEIZI",
    "337f SQUARE |CORPORATION|PA AMPS|NA|MU A|MA",
    "3384 SQUARE |KA|KB|MB|GB|CAL|KCAL|PF|NF|MU F|MU G|MG|KG|HZ|KHZ|MHZ|GHZ|THZ|MU L|ML|DL|KL|FM",
    "339a SQUARE |NM|MU M|MM|CM|KM|MM SQUARED|CM SQUARED|M SQUARED|KM SQUARED|MM CUBED|CM CUBED",
    "33a5 SQUARE |M CUBED|KM CUBED|M OVER S|M OVER S SQUARED|PA|KPA|MPA|GPA|RAD|RAD OVER S",
    "33af SQUARE |RAD OVER S SQUARED|PS|NS|MU S|MS|PV|NV|MU V|MV|KV|MV MEGA|PW|NW|MU W|MW",
    "33be SQUARE |KW|MW MEGA|K OHM|M OHM|AM|BQ|CC|CD|C OVER KG|CO|DB|GY|HA|HP|IN|KK|KM CAPITAL",
    "33cf SQUARE |KT|LM|LN|LOG|LX|MB SMALL|MIL|MOL|PH|PM|PPM|PR|SR|SV|WB|V OVER M|A OVER M",
    "33e0 IDEOGRAPHIC TELEGRAPH SYMBOL FOR DAY |ONE|TWO|THREE|FOUR|FIVE|SIX|SEVEN",
    "33e7 IDEOGRAPHIC TELEGRAPH SYMBOL FOR DAY |EIGHT|NINE|TEN|ELEVEN|TWELVE|THIRTEEN|FOURTEEN",
    "33ee IDEOGRAPHIC TELEGRAPH SYMBOL FOR DAY |FIFTEEN|SIXTEEN|SEVENTEEN|EIGHTEEN|NINETEEN",
    "33f3 IDEOGRAPHIC TELEGRAPH SYMBOL FOR DAY |TWENTY|TWENTY-ONE|TWENTY-TWO|TWENTY-THREE",
    "33f7 IDEOGRAPHIC TELEGRAPH SYMBOL FOR DAY |TWENTY-FOUR|TWENTY-FIVE|TWENTY-SIX|TWENTY-SEVEN",
    "33fb IDEOGRAPHIC TELEGRAPH SYMBOL FOR DAY |TWENTY-EIGHT|TWENTY-NINE|THIRTY|THIRTY-ONE",
    "33ff |SQUARE GAL",
    "4dc0 HEXAGRAM FOR |THE CREATIVE HEAVEN|THE RECEPTIVE EARTH|DIFFICULTY AT THE BEGINNING",
    "4dc3 HEXAGRAM FOR |YOUTHFUL FOLLY|WAITING|CONFLICT|THE ARMY|HOLDING TOGETHER",
    "4dc8 HEXAGRAM FOR |SMALL TAMING|TREADING|PEACE|STANDSTILL|FELLOWSHIP|GREAT POSSESSION",
    "4dce HEXAGRAM FOR |MODESTY|ENTHUSIASM|FOLLOWING|WORK ON THE DECAYED|APPROACH|CONTEMPLATION",
    "4dd4 HEXAGRAM FOR |BITING THROUGH|GRACE|SPLITTING APART|RETURN|INNOCENCE|GREAT TAMING",
    "4dda HEXAGRAM FOR |MOUTH CORNERS|GREAT PREPONDERANCE|THE ABYSMAL WATER|THE CLINGING FIRE",
    "4dde HEXAGRAM FOR |INFLUENCE|DURATION|RETREAT|GREAT POWER|PROGRESS|DARKENING OF THE LIGHT",
    "4de4 HEXAGRAM FOR |THE FAMILY|OPPOSITION|OBSTRUCTION|DELIVERANCE|DECREASE",
    "4de9 HEXAGRAM FOR |INCREASE|BREAKTHROUGH|COMING TO MEET|GATHERING TOGETHER|PUSHING UPWARD",
    "4dee HEXAGRAM FOR |OPPRESSION|THE WELL|REVOLUTION|THE CAULDRON|THE AROUSING THUNDER",
    "4df3 HEXAGRAM FOR |THE KEEPING STILL MOUNTAIN|DEVELOPMENT|THE MARRYING MAIDEN|ABUNDANCE",
    "4df7 HEXAGRAM FOR |THE WANDERER|THE GENTLE WIND|THE JOYOUS LAKE|DISPERSION|LIMITATION",
    "4dfc HEXAGRAM FOR |INNER TRUTH|SMALL PREPONDERANCE|AFTER COMPLETION|BEFORE COMPLETION",
    "a000 YI SYLLABLE |IT|IX|I|IP|IET",
    "a005 YI SYLLABLE |IEX|IE|IEP|AT|AX|A|AP|UOX|UO|UOP|OT|OX|O|OP|EX|E|WU|BIT|BIX|BI|BIP|BIET",
    "a01b YI SYLLABLE |BIEX|BIE|BIEP|BAT|BAX|BA|BAP|BUOX|BUO|BUOP|BOT|BOX|BO|BOP|BEX|BE|BEP|BUT",
    "a02d YI SYLLABLE |BUX|BU|BUP|BURX|BUR|BYT|BYX|BY|BYP|BYRX|BYR|PIT|PIX|PI|PIP|PIEX|PIE|PIEP",
    "a03f YI SYLLABLE |PAT|PAX|PA|PAP|PUOX|PUO|PUOP|POT|POX|PO|POP|PUT|PUX|PU|PUP|PURX|PUR|PYT",
    "a051 YI SYLLABLE |PYX|PY|PYP|PYRX|PYR|BBIT|BBIX|BBI|BBIP|BBIET|BBIEX|BBIE|BBIEP|BBAT|BBAX",
    "a060 YI SYLLABLE |BBA|BBAP|BBUOX|BBUO|BBUOP|BBOT|BBOX|BBO|BBOP|BBEX|BBE|BBEP|BBUT|BBUX|BBU",
    "a06f YI SYLLABLE |BBUP|BBURX|BBUR|BBYT|BBYX|BBY|BBYP|NBIT|NBIX|NBI|NBIP|NBIEX|NBIE|NBIEP",
    "a07d YI SYLLABLE |NBAT|NBAX|NBA|NBAP|NBOT|NBOX|NBO|NBOP|NBUT|NBUX|NBU|NBUP|NBURX|NBUR|NBYT",
    "a08c YI SYLLABLE |NBYX|NBY|NBYP|NBYRX|NBYR|HMIT|HMIX|HMI|HMIP|HMIEX|HMIE|HMIEP|HMAT|HMAX",
    "a09a YI SYLLABLE |HMA|HMAP|HMUOX|HMUO|HMUOP|HMOT|HMOX|HMO|HMOP|HMUT|HMUX|HMU|HMUP|HMURX",
    "a0a8 YI SYLLABLE |HMUR|HMYX|HMY|HMYP|HMYRX|HMYR|MIT|MIX|MI|MIP|MIEX|MIE|MIEP|MAT|MAX|MA|MAP",
    "a0b9 YI SYLLABLE |MUOT|MUOX|MUO|MUOP|MOT|MOX|MO|MOP|MEX|ME|MUT|MUX|MU|MUP|MURX|MUR|MYT|MYX",
    "a0cb YI SYLLABLE |MY|MYP|FIT|FIX|FI|FIP|FAT|FAX|FA|FAP|FOX|FO|FOP|FUT|FUX|FU|FUP|FURX|FUR",
    "a0de YI SYLLABLE |FYT|FYX|FY|FYP|VIT|VIX|VI|VIP|VIET|VIEX|VIE|VIEP|VAT|VAX|VA|VAP|VOT|VOX",
    "a0f0 YI SYLLABLE |VO|VOP|VEX|VEP|VUT|VUX|VU|VUP|VURX|VUR|VYT|VYX|VY|VYP|VYRX|VYR|DIT|DIX",
    "a102 YI SYLLABLE |DI|DIP|DIEX|DIE|DIEP|DAT|DAX|DA|DAP|DUOX|DUO|DOT|DOX|DO|DOP|DEX|DE|DEP",
    "a114 YI SYLLABLE |DUT|DUX|DU|DUP|DURX|DUR|TIT|TIX|TI|TIP|TIEX|TIE|TIEP|TAT|TAX|TA|TAP|TUOT",
    "a126 YI SYLLABLE |TUOX|TUO|TUOP|TOT|TOX|TO|TOP|TEX|TE|TEP|TUT|TUX|TU|TUP|TURX|TUR|DDIT|DDIX",
    "a138 YI SYLLABLE |DDI|DDIP|DDIEX|DDIE|DDIEP|DDAT|DDAX|DDA|DDAP|DDUOX|DDUO|DDUOP|DDOT|DDOX",
    "a146 YI SYLLABLE |DDO|DDOP|DDEX|DDE|DDEP|DDUT|DDUX|DDU|DDUP|DDURX|DDUR|NDIT|NDIX|NDI|NDIP",
    "a155 YI SYLLABLE |NDIEX|NDIE|NDAT|NDAX|NDA|NDAP|NDOT|NDOX|NDO|NDOP|NDEX|NDE|NDEP|NDUT|NDUX",
    "a164 YI SYLLABLE |NDU|NDUP|NDURX|NDUR|HNIT|HNIX|HNI|HNIP|HNIET|HNIEX|HNIE|HNIEP|HNAT|HNAX",
    "a172 YI SYLLABLE |HNA|HNAP|HNUOX|HNUO|HNOT|HNOX|HNOP|HNEX|HNE|HNEP|HNUT|NIT|NIX|NI|NIP|NIEX",
    "a182 YI SYLLABLE |NIE|NIEP|NAX|NA|NAP|NUOX|NUO|NUOP|NOT|NOX|NO|NOP|NEX|NE|NEP|NUT|NUX|NU",
    "a194 YI SYLLABLE |NUP|NURX|NUR|HLIT|HLIX|HLI|HLIP|HLIEX|HLIE|HLIEP|HLAT|HLAX|HLA|HLAP|HLUOX",
    "a1a3 YI SYLLABLE |HLUO|HLUOP|HLOX|HLO|HLOP|HLEX|HLE|HLEP|HLUT|HLUX|HLU|HLUP|HLURX|HLUR|HLYT",
    "a1b2 YI SYLLABLE |HLYX|HLY|HLYP|HLYRX|HLYR|LIT|LIX|LI|LIP|LIET|LIEX|LIE|LIEP|LAT|LAX|LA|LAP",
    "a1c3 YI SYLLABLE |LUOT|LUOX|LUO|LUOP|LOT|LOX|LO|LOP|LEX|LE|LEP|LUT|LUX|LU|LUP|LURX|LUR|LYT",
    "a1d5 YI SYLLABLE |LYX|LY|LYP|LYRX|LYR|GIT|GIX|GI|GIP|GIET|GIEX|GIE|GIEP|GAT|GAX|GA|GAP|GUOT",
    "a1e7 YI SYLLABLE |GUOX|GUO|GUOP|GOT|GOX|GO|GOP|GET|GEX|GE|GEP|GUT|GUX|GU|GUP|GURX|GUR|KIT",
    "a1f9 YI SYLLABLE |KIX|KI|KIP|KIEX|KIE|KIEP|KAT|KAX|KA|KAP|KUOX|KUO|KUOP|KOT|KOX|KO|KOP|KET",
    "a20b YI SYLLABLE |KEX|KE|KEP|KUT|KUX|KU|KUP|KURX|KUR|GGIT|GGIX|GGI|GGIEX|GGIE|GGIEP|GGAT",
    "a21b YI SYLLABLE |GGAX|GGA|GGAP|GGUOT|GGUOX|GGUO|GGUOP|GGOT|GGOX|GGO|GGOP|GGET|GGEX|GGE",
    "a229 YI SYLLABLE |GGEP|GGUT|GGUX|GGU|GGUP|GGURX|GGUR|MGIEX|MGIE|MGAT|MGAX|MGA|MGAP|MGUOX",
    "a237 YI SYLLABLE |MGUO|MGUOP|MGOT|MGOX|MGO|MGOP|MGEX|MGE|MGEP|MGUT|MGUX|MGU|MGUP|MGURX",
    "a245 YI SYLLABLE |MGUR|HXIT|HXIX|HXI|HXIP|HXIET|HXIEX|HXIE|HXIEP|HXAT|HXAX|HXA|HXAP|HXUOT",
    "a253 YI SYLLABLE |HXUOX|HXUO|HXUOP|HXOT|HXOX|HXO|HXOP|HXEX|HXE|HXEP|NGIEX|NGIE|NGIEP|NGAT",
    "a261 YI SYLLABLE |NGAX|NGA|NGAP|NGUOT|NGUOX|NGUO|NGOT|NGOX|NGO|NGOP|NGEX|NGE|NGEP|HIT|HIEX",
    "a270 YI SYLLABLE |HIE|HAT|HAX|HA|HAP|HUOT|HUOX|HUO|HUOP|HOT|HOX|HO|HOP|HEX|HE|HEP|WAT|WAX",
    "a282 YI SYLLABLE |WA|WAP|WUOX|WUO|WUOP|WOX|WO|WOP|WEX|WE|WEP|ZIT|ZIX|ZI|ZIP|ZIEX|ZIE|ZIEP",
    "a294 YI SYLLABLE |ZAT|ZAX|ZA|ZAP|ZUOX|ZUO|ZUOP|ZOT|ZOX|ZO|ZOP|ZEX|ZE|ZEP|ZUT|ZUX|ZU|ZUP",
    "a2a6 YI SYLLABLE |ZURX|ZUR|ZYT|ZYX|ZY|ZYP|ZYRX|ZYR|CIT|CIX|CI|CIP|CIET|CIEX|CIE|CIEP|CAT",
    "a2b7 YI SYLLABLE |CAX|CA|CAP|CUOX|CUO|CUOP|COT|COX|CO|COP|CEX|CE|CEP|CUT|CUX|CU|CUP|CURX",
    "a2c9 YI SYLLABLE |CUR|CYT|CYX|CY|CYP|CYRX|CYR|ZZIT|ZZIX|ZZI|ZZIP|ZZIET|ZZIEX|ZZIE|ZZIEP",
    "a2d8 YI SYLLABLE |ZZAT|ZZAX|ZZA|ZZAP|ZZOX|ZZO|ZZOP|ZZEX|ZZE|ZZEP|ZZUX|ZZU|ZZUP|ZZURX|ZZUR",
    "a2e7 YI SYLLABLE |ZZYT|ZZYX|ZZY|ZZYP|ZZYRX|ZZYR|NZIT|NZIX|NZI|NZIP|NZIEX|NZIE|NZIEP|NZAT",
    "a2f5 YI SYLLABLE |NZAX|NZA|NZAP|NZUOX|NZUO|NZOX|NZOP|NZEX|NZE|NZUX|NZU|NZUP|NZURX|NZUR|NZYT",
    "a304 YI SYLLABLE |NZYX|NZY|NZYP|NZYRX|NZYR|SIT|SIX|SI|SIP|SIEX|SIE|SIEP|SAT|SAX|SA|SAP|SUOX",
    "a315 YI SYLLABLE |SUO|SUOP|SOT|SOX|SO|SOP|SEX|SE|SEP|SUT|SUX|SU|SUP|SURX|SUR|SYT|SYX|SY|SYP",
    "a328 YI SYLLABLE |SYRX|SYR|SSIT|SSIX|SSI|SSIP|SSIEX|SSIE|SSIEP|SSAT|SSAX|SSA|SSAP|SSOT|SSOX",
    "a337 YI SYLLABLE |SSO|SSOP|SSEX|SSE|SSEP|SSUT|SSUX|SSU|SSUP|SSYT|SSYX|SSY|SSYP|SSYRX|SSYR",
    "a346 YI SYLLABLE |ZHAT|ZHAX|ZHA|ZHAP|ZHUOX|ZHUO|ZHUOP|ZHOT|ZHOX|ZHO|ZHOP|ZHET|ZHEX|ZHE|ZHEP",
    "a355 YI SYLLABLE |ZHUT|ZHUX|ZHU|ZHUP|ZHURX|ZHUR|ZHYT|ZHYX|ZHY|ZHYP|ZHYRX|ZHYR|CHAT|CHAX",
    "a363 YI SYLLABLE |CHA|CHAP|CHUOT|CHUOX|CHUO|CHUOP|CHOT|CHOX|CHO|CHOP|CHET|CHEX|CHE|CHEP",
    "a371 YI SYLLABLE |CHUX|CHU|CHUP|CHURX|CHUR|CHYT|CHYX|CHY|CHYP|CHYRX|CHYR|RRAX|RRA|RRUOX",
    "a37f YI SYLLABLE |RRUO|RROT|RROX|RRO|RROP|RRET|RREX|RRE|RREP|RRUT|RRUX|RRU|RRUP|RRURX|RRUR",
    "a38e YI SYLLABLE |RRYT|RRYX|RRY|RRYP|RRYRX|RRYR|NRAT|NRAX|NRA|NRAP|NROX|NRO|NROP|NRET|NREX",
    "a39d YI SYLLABLE |NRE|NREP|NRUT|NRUX|NRU|NRUP|NRURX|NRUR|NRYT|NRYX|NRY|NRYP|NRYRX|NRYR|SHAT",
    "a3ac YI SYLLABLE |SHAX|SHA|SHAP|SHUOX|SHUO|SHUOP|SHOT|SHOX|SHO|SHOP|SHET|SHEX|SHE|SHEP|SHUT",
    "a3bb YI SYLLABLE |SHUX|SHU|SHUP|SHURX|SHUR|SHYT|SHYX|SHY|SHYP|SHYRX|SHYR|RAT|RAX|RA|RAP",
    "a3ca YI SYLLABLE |RUOX|RUO|RUOP|ROT|ROX|RO|ROP|REX|RE|REP|RUT|RUX|RU|RUP|RURX|RUR|RYT|RYX",
    "a3dc YI SYLLABLE |RY|RYP|RYRX|RYR|JIT|JIX|JI|JIP|JIET|JIEX|JIE|JIEP|JUOT|JUOX|JUO|JUOP|JOT",
    "a3ed YI SYLLABLE |JOX|JO|JOP|JUT|JUX|JU|JUP|JURX|JUR|JYT|JYX|JY|JYP|JYRX|JYR|QIT|QIX|QI|QIP",
    "a400 YI SYLLABLE |QIET|QIEX|QIE|QIEP|QUOT|QUOX|QUO|QUOP|QOT|QOX|QO|QOP|QUT|QUX|QU|QUP|QURX",
    "a411 YI SYLLABLE |QUR|QYT|QYX|QY|QYP|QYRX|QYR|JJIT|JJIX|JJI|JJIP|JJIET|JJIEX|JJIE|JJIEP",
    "a420 YI SYLLABLE |JJUOX|JJUO|JJUOP|JJOT|JJOX|JJO|JJOP|JJUT|JJUX|JJU|JJUP|JJURX|JJUR|JJYT",
    "a42e YI SYLLABLE |JJYX|JJY|JJYP|NJIT|NJIX|NJI|NJIP|NJIET|NJIEX|NJIE|NJIEP|NJUOX|NJUO|NJOT",
    "a43c YI SYLLABLE |NJOX|NJO|NJOP|NJUX|NJU|NJUP|NJURX|NJUR|NJYT|NJYX|NJY|NJYP|NJYRX|NJYR|NYIT",
    "a44b YI SYLLABLE |NYIX|NYI|NYIP|NYIET|NYIEX|NYIE|NYIEP|NYUOX|NYUO|NYUOP|NYOT|NYOX|NYO|NYOP",
    "a459 YI SYLLABLE |NYUT|NYUX|NYU|NYUP|XIT|XIX|XI|XIP|XIET|XIEX|XIE|XIEP|XUOX|XUO|XOT|XOX|XO",
    "a46a YI SYLLABLE |XOP|XYT|XYX|XY|XYP|XYRX|XYR|YIT|YIX|YI|YIP|YIET|YIEX|YIE|YIEP|YUOT|YUOX",
    "a47b YI SYLLABLE |YUO|YUOP|YOT|YOX|YO|YOP|YUT|YUX|YU|YUP|YURX|YUR|YYT|YYX|YY|YYP|YYRX|YYR",
    "a490 YI RADICAL |QOT|LI",
    "a492 YI RADICAL |KIT|NYIP|CYP|SSI|GGOP|GEP|MI|HXIT|LYR|BBUT|MOP|YO|PUT|HXUO|TAT|GA|ZUP|CYT",
    "a4a4 YI RADICAL |DDUR|BUR|GGUO|NYOP|TU|OP|JJUT|ZOT|PYT|HMO|YIT|VUR|SHY|VEP|ZA|JO|NZUP|JJY",
    "a4b6 YI RADICAL |GOT|JJIE|WO|DU|SHUR|LIE|CY|CUOP|CIP|HXOP|SHAT|ZUR|SHOP|CHE|ZZIET|NBIE|KE",
    "a4d0 LISU LETTER |BA|PA|PHA|DA|TA|THA|GA|KA|KHA|JA|CA|CHA|DZA|TSA|TSHA|MA",
    "a4e0 LISU LETTER |NA|LA|SA|ZHA|ZA|NGA|HA|XA|HHA|FA|WA|SHA|YA|GHA|A|AE|E|EU|I|O|U|UE|UH|OE",
    "a4f8 LISU LETTER TONE |MYA TI|NA PO|MYA CYA|MYA BO|MYA NA|MYA JEU",
    "a4fe LISU PUNCTUATION |COMMA|FULL STOP",
    "a500 VAI SYLLABLE |EE|EEN|HEE|WEE|WEEN|PEE|BHEE",
    "a507 VAI SYLLABLE |BEE|MBEE|KPEE|MGBEE|GBEE|FEE|VEE|TEE|THEE|DHEE|DHHEE|LEE|REE|DEE|NDEE",
    "a516 VAI SYLLABLE |SEE|SHEE|ZEE|ZHEE|CEE|JEE|NJEE|YEE|KEE|NGGEE|GEE|MEE|NEE|NYEE|I|IN|HI",
    "a527 VAI SYLLABLE |HIN|WI|WIN|PI|BHI|BI|MBI|KPI|MGBI|GBI|FI|VI|TI|THI|DHI|DHHI|LI|RI|DI|NDI",
    "a53b VAI SYLLABLE |SI|SHI|ZI|ZHI|CI|JI|NJI|YI|KI|NGGI|GI|MI|NI|NYI|A|AN|NGAN|HA|HAN|WA|WAN",
    "a550 VAI SYLLABLE |PA|BHA|BA|MBA|KPA|KPAN|MGBA|GBA|FA|VA|TA|THA|DHA|DHHA|LA|RA|DA|NDA|SA",
    "a563 VAI SYLLABLE |SHA|ZA|ZHA|CA|JA|NJA|YA|KA|KAN|NGGA|GA|MA|NA|NYA|OO|OON|HOO|WOO|WOON|POO",
    "a577 VAI SYLLABLE |BHOO|BOO|MBOO|KPOO|MGBOO|GBOO|FOO|VOO|TOO|THOO|DHOO|DHHOO|LOO|ROO|DOO",
    "a586 VAI SYLLABLE |NDOO|SOO|SHOO|ZOO|ZHOO|COO|JOO|NJOO|YOO|KOO|NGGOO|GOO|MOO|NOO|NYOO|U|UN",
    "a597 VAI SYLLABLE |HU|HUN|WU|WUN|PU|BHU|BU|MBU|KPU|MGBU|GBU|FU|VU|TU|THU|DHU|DHHU|LU|RU|DU",
    "a5ab VAI SYLLABLE |NDU|SU|SHU|ZU|ZHU|CU|JU|NJU|YU|KU|NGGU|GU|MU|NU|NYU|O|ON|NGON|HO|HON|WO",
    "a5c0 VAI SYLLABLE |WON|PO|BHO|BO|MBO|KPO|MGBO|GBO|GBON|FO|VO|TO|THO|DHO|DHHO|LO|RO|DO|NDO",
    "a5d3 VAI SYLLABLE |SO|SHO|ZO|ZHO|CO|JO|NJO|YO|KO|NGGO|GO|MO|NO|NYO|E|EN|NGEN|HE|HEN|WE|WEN",
    "a5e8 VAI SYLLABLE |PE|BHE|BE|MBE|KPE|KPEN|MGBE|GBE|GBEN|FE|VE|TE|THE|DHE|DHHE|LE|RE|DE|NDE",
    "a5fb VAI SYLLABLE |SE|SHE|ZE|ZHE|CE|JE|NJE|YE|KE|NGGE|NGGEN|GE|GEN|ME|NE|NYE|NG|LENGTHENER",
    "a60d VAI |COMMA|FULL STOP|QUESTION MARK",
    "a610 VAI SYLLABLE NDOLE |FA|KA|SOO",
    "a613 VAI SYMBOL |FEENG|KEENG|TING|NII|BANG|FAA|TAA|DANG|DOONG|KUNG|TONG|DO-O|JONG",
    "a620 VAI DIGIT |ZERO|ONE|TWO|THREE|FOUR|FIVE|SIX|SEVEN|EIGHT|NINE",
    "a62a VAI SYLLABLE NDOLE |MA|DO",
    "a640 CYRILLIC |CAPITAL LETTER ZEMLYA|SMALL LETTER ZEMLYA",
    "a642 CYRILLIC |CAPITAL LETTER DZELO|SMALL LETTER DZELO|CAPITAL LETTER REVERSED DZE",
    "a645 CYRILLIC |SMALL LETTER REVERSED DZE|CAPITAL LETTER IOTA|SMALL LETTER IOTA",
    "a648 CYRILLIC |CAPITAL LETTER DJERV|SMALL LETTER DJERV|CAPITAL LETTER MONOGRAPH UK",
    "a64b CYRILLIC |SMALL LETTER MONOGRAPH UK|CAPITAL LETTER BROAD OMEGA",
    "a64d CYRILLIC |SMALL LETTER BROAD OMEGA|CAPITAL LETTER NEUTRAL YER",
    "a64f CYRILLIC |SMALL LETTER NEUTRAL YER|CAPITAL LETTER YERU WITH BACK YER",
    "a651 CYRILLIC |SMALL LETTER YERU WITH BACK YER|CAPITAL LETTER IOTIFIED YAT",
    "a653 CYRILLIC |SMALL LETTER IOTIFIED YAT|CAPITAL LETTER REVERSED YU",
    "a655 CYRILLIC |SMALL LETTER REVERSED YU|CAPITAL LETTER IOTIFIED A",
    "a657 CYRILLIC |SMALL LETTER IOTIFIED A|CAPITAL LETTER CLOSED LITTLE YUS",
    "a659 CYRILLIC |SMALL LETTER CLOSED LITTLE YUS|CAPITAL LETTER BLENDED YUS",
    "a65b CYRILLIC |SMALL LETTER BLENDED YUS|CAPITAL LETTER IOTIFIED CLOSED LITTLE YUS",
    "a65d CYRILLIC |SMALL LETTER IOTIFIED CLOSED LITTLE YUS|CAPITAL LETTER YN|SMALL LETTER YN",
    "a660 CYRILLIC |CAPITAL LETTER REVERSED TSE|SMALL LETTER REVERSED TSE|CAPITAL LETTER SOFT DE",
    "a663 CYRILLIC |SMALL LETTER SOFT DE|CAPITAL LETTER SOFT EL|SMALL LETTER SOFT EL",
    "a666 CYRILLIC |CAPITAL LETTER SOFT EM|SMALL LETTER SOFT EM|CAPITAL LETTER MONOCULAR O",
    "a669 CYRILLIC |SMALL LETTER MONOCULAR O|CAPITAL LETTER BINOCULAR O",
    "a66b CYRILLIC |SMALL LETTER BINOCULAR O|CAPITAL LETTER DOUBLE MONOCULAR O",
    "a66d CYRILLIC |SMALL LETTER DOUBLE MONOCULAR O|LETTER MULTIOCULAR O",
    "a66f COMBINING CYRILLIC |VZMET|TEN MILLIONS SIGN|HUNDRED MILLIONS SIGN",
    "a672 |COMBINING CYRILLIC THOUSAND MILLIONS SIGN|SLAVONIC ASTERISK",
    "a674 COMBINING CYRILLIC LETTER |UKRAINIAN IE|I|YI|U|HARD SIGN|YERU|SOFT SIGN|OMEGA",
    "a67c COMBINING CYRILLIC |KAVYKA|PAYEROK",
    "a67e CYRILLIC |KAVYKA|PAYEROK",
    "a680 CYRILLIC |CAPITAL LETTER DWE|SMALL LETTER DWE|CAPITAL LETTER DZWE|SMALL LETTER DZWE",
    "a684 CYRILLIC |CAPITAL LETTER ZHWE|SMALL LETTER ZHWE|CAPITAL LETTER CCHE|SMALL LETTER CCHE",
    "a688 CYRILLIC |CAPITAL LETTER DZZE|SMALL LETTER DZZE|CAPITAL LETTER TE WITH MIDDLE HOOK",
    "a68b CYRILLIC |SMALL LETTER TE WITH MIDDLE HOOK|CAPITAL LETTER TWE|SMALL LETTER TWE",
    "a68e CYRILLIC |CAPITAL LETTER TSWE|SMALL LETTER TSWE|CAPITAL LETTER TSSE|SMALL LETTER TSSE",
    "a692 CYRILLIC |CAPITAL LETTER TCHE|SMALL LETTER TCHE|CAPITAL LETTER HWE|SMALL LETTER HWE",
    "a696 CYRILLIC |CAPITAL LETTER SHWE|SMALL LETTER SHWE|CAPITAL LETTER DOUBLE O",
    "a699 CYRILLIC |SMALL LETTER DOUBLE O|CAPITAL LETTER CROSSED O|SMALL LETTER CROSSED O",
    "a69c MODIFIER LETTER CYRILLIC |HARD SIGN|SOFT SIGN",
    "a69e COMBINING CYRILLIC LETTER |EF|IOTIFIED E",
    "a6a0 BAMUM LETTER |A|KA|U|KU|EE|REE|TAE|O|NYI|I|LA|PA|RII|RIEE",
    "a6ae BAMUM LETTER |LEEEE|MEEEE|TAA|NDAA|NJAEM|M|SUU|MU|SHII|SI|SHEUX|SEUX|KYEE|KET|NUAE",
    "a6bd BAMUM LETTER |NU|NJUAE|YOQ|SHU|YUQ|YA|NSHA|KEUX|PEUX|NJEE|NTEE|PUE|WUE|PEE|FEE|RU|LU",
    "a6ce BAMUM LETTER |MI|NI|REUX|RAE|KEN|NGKWAEN|NGGA|NGA|SHO|PUAE|FU|FOM|WA|NA|LI|PI|LOQ|KO",
    "a6e0 BAMUM LETTER |MBEN|REN|MEN|MA|TI|KI|MO|MBAA|TET|KPA|TEN|NTUU|SAMBA|FAAMAE|KOVUU|KOGHOM",
    "a6f0 BAMUM COMBINING MARK |KOQNDON|TUKWENTIS",
    "a6f2 BAMUM |NJAEMLI|FULL STOP|COLON|COMMA|SEMICOLON|QUESTION MARK",
    "a700 MODIFIER LETTER CHINESE TONE |YIN PING|YANG PING",
    "a702 MODIFIER LETTER CHINESE TONE |YIN SHANG|YANG SHANG|YIN QU|YANG QU|YIN RU|YANG RU",
    "a708 MODIFIER LETTER |EXTRA-HIGH DOTTED TONE BAR|HIGH DOTTED TONE BAR",
    "a70a MODIFIER LETTER |MID DOTTED TONE BAR|LOW DOTTED TONE BAR|EXTRA-LOW DOTTED TONE BAR",
    "a70d MODIFIER LETTER |EXTRA-HIGH DOTTED LEFT-STEM TONE BAR|HIGH DOTTED LEFT-STEM TONE BAR",
    "a70f MODIFIER LETTER |MID DOTTED LEFT-STEM TONE BAR|LOW DOTTED LEFT-STEM TONE BAR",
    "a711 MODIFIER LETTER |EXTRA-LOW DOTTED LEFT-STEM TONE BAR|EXTRA-HIGH LEFT-STEM TONE BAR",
    "a713 MODIFIER LETTER |HIGH LEFT-STEM TONE BAR|MID LEFT-STEM TONE BAR",
    "a715 MODIFIER LETTER |LOW LEFT-STEM TONE BAR|EXTRA-LOW LEFT-STEM TONE BAR|DOT VERTICAL BAR",
    "a718 MODIFIER LETTER |DOT SLASH|DOT HORIZONTAL BAR|LOWER RIGHT CORNER ANGLE",
    "a71b MODIFIER LETTER RAISED |UP ARROW|DOWN ARROW|EXCLAMATION MARK|INVERTED EXCLAMATION MARK",
    "a71f MODIFIER LETTER |LOW INVERTED EXCLAMATION MARK|STRESS AND HIGH TONE",
    "a721 |MODIFIER LETTER STRESS AND LOW TONE|LATIN CAPITAL LETTER EGYPTOLOGICAL ALEF",
    "a723 LATIN |SMALL LETTER EGYPTOLOGICAL ALEF|CAPITAL LETTER EGYPTOLOGICAL AIN",
    "a725 LATIN |SMALL LETTER EGYPTOLOGICAL AIN|CAPITAL LETTER HENG",
    "a727 LATIN |SMALL LETTER HENG|CAPITAL LETTER TZ|SMALL LETTER TZ|CAPITAL LETTER TRESILLO",
    "a72b LATIN |SMALL LETTER TRESILLO|CAPITAL LETTER CUATRILLO|SMALL LETTER CUATRILLO",
    "a72e LATIN |CAPITAL LETTER CUATRILLO WITH COMMA|SMALL LETTER CUATRILLO WITH COMMA",
    "a730 LATIN LETTER SMALL CAPITAL |F|S",
    "a732 LATIN |CAPITAL LETTER AA|SMALL LETTER AA",
    "a734 LATIN |CAPITAL LETTER AO|SMALL LETTER AO|CAPITAL LETTER AU|SMALL LETTER AU",
    "a738 LATIN |CAPITAL LETTER AV|SMALL LETTER AV|CAPITAL LETTER AV WITH HORIZONTAL BAR",
    "a73b LATIN |SMALL LETTER AV WITH HORIZONTAL BAR|CAPITAL LETTER AY|SMALL LETTER AY",
    "a73e LATIN |CAPITAL LETTER REVERSED C WITH DOT|SMALL LETTER REVERSED C WITH DOT",
    "a740 LATIN |CAPITAL LETTER K WITH STROKE|SMALL LETTER K WITH STROKE",
    "a742 LATIN |CAPITAL LETTER K WITH DIAGONAL STROKE|SMALL LETTER K WITH DIAGONAL STROKE",
    "a744 |LATIN CAPITAL LETTER K WITH STROKE AND DIAGONAL STROKE",
    "a745 |LATIN SMALL LETTER K WITH STROKE AND DIAGONAL STROKE",
    "a746 LATIN |CAPITAL LETTER BROKEN L|SMALL LETTER BROKEN L|CAPITAL LETTER L WITH HIGH STROKE",
    "a749 LATIN |SMALL LETTER L WITH HIGH STROKE|CAPITAL LETTER O WITH LONG STROKE OVERLAY",
    "a74b |LATIN SMALL LETTER O WITH LONG STROKE OVERLAY",
    "a74c LATIN |CAPITAL LETTER O WITH LOOP|SMALL LETTER O WITH LOOP|CAPITAL LETTER OO",
    "a74f LATIN |SMALL LETTER OO|CAPITAL LETTER P WITH STROKE THROUGH DESCENDER",
    "a751 |LATIN SMALL LETTER P WITH STROKE THROUGH DESCENDER",
    "a752 LATIN |CAPITAL LETTER P WITH FLOURISH|SMALL LETTER P WITH FLOURISH",
    "a754 LATIN |CAPITAL LETTER P WITH SQUIRREL TAIL|SMALL LETTER P WITH SQUIRREL TAIL",
    "a756 |LATIN CAPITAL LETTER Q WITH STROKE THROUGH DESCENDER",
    "a757 |LATIN SMALL LETTER Q WITH STROKE THROUGH DESCENDER",
    "a758 LATIN |CAPITAL LETTER Q WITH DIAGONAL STROKE|SMALL LETTER Q WITH DIAGONAL STROKE",
    "a75a LATIN |CAPITAL LETTER R ROTUNDA|SMALL LETTER R ROTUNDA|CAPITAL LETTER RUM ROTUNDA",
    "a75d LATIN |SMALL LETTER RUM ROTUNDA|CAPITAL LETTER V WITH DIAGONAL STROKE",
    "a75f LATIN |SMALL LETTER V WITH DIAGONAL STROKE|CAPITAL LETTER VY",
    "a761 LATIN |SMALL LETTER VY|CAPITAL LETTER VISIGOTHIC Z|SMALL LETTER VISIGOTHIC Z",
    "a764 LATIN |CAPITAL LETTER THORN WITH STROKE|SMALL LETTER THORN WITH STROKE",
    "a766 |LATIN CAPITAL LETTER THORN WITH STROKE THROUGH DESCENDER",
    "a767 |LATIN SMALL LETTER THORN WITH STROKE THROUGH DESCENDER",
    "a768 LATIN |CAPITAL LETTER VEND|SMALL LETTER VEND|CAPITAL LETTER ET|SMALL LETTER ET",
    "a76c LATIN |CAPITAL LETTER IS|SMALL LETTER IS|CAPITAL LETTER CON|SMALL LETTER CON",
    "a770 |MODIFIER LETTER US",
    "a771 LATIN SMALL LETTER |DUM|LUM|MUM|NUM|RUM",
    "a776 LATIN |LETTER SMALL CAPITAL RUM|SMALL LETTER TUM|SMALL LETTER UM",
    "a779 LATIN |CAPITAL LETTER INSULAR D|SMALL LETTER INSULAR D|CAPITAL LETTER INSULAR F",
    "a77c LATIN |SMALL LETTER INSULAR F|CAPITAL LETTER INSULAR G|CAPITAL LETTER TURNED INSULAR G",
    "a77f LATIN |SMALL LETTER TURNED INSULAR G|CAPITAL LETTER TURNED L|SMALL LETTER TURNED L",
    "a782 LATIN |CAPITAL LETTER INSULAR R|SMALL LETTER INSULAR R|CAPITAL LETTER INSULAR S",
    "a785 LATIN |SMALL LETTER INSULAR S|CAPITAL LETTER INSULAR T|SMALL LETTER INSULAR T",
    "a788 MODIFIER LETTER |LOW CIRCUMFLEX ACCENT|COLON|SHORT EQUALS SIGN",
    "a78b LATIN |CAPITAL LETTER SALTILLO|SMALL LETTER SALTILLO",
    "a78d LATIN |CAPITAL LETTER TURNED H|SMALL LETTER L WITH RETROFLEX HOOK AND BELT",
    "a78f LATIN |LETTER SINOLOGICAL DOT|CAPITAL LETTER N WITH DESCENDER",
    "a791 LATIN |SMALL LETTER N WITH DESCENDER|CAPITAL LETTER C WITH BAR",
    "a793 LATIN SMALL LETTER |C WITH BAR|C WITH PALATAL HOOK|H WITH PALATAL HOOK",
    "a796 LATIN |CAPITAL LETTER B WITH FLOURISH|SMALL LETTER B WITH FLOURISH",
    "a798 LATIN |CAPITAL LETTER F WITH STROKE|SMALL LETTER F WITH STROKE",
    "a79a LATIN |CAPITAL LETTER VOLAPUK AE|SMALL LETTER VOLAPUK AE|CAPITAL LETTER VOLAPUK OE",
    "a79d LATIN |SMALL LETTER VOLAPUK OE|CAPITAL LETTER VOLAPUK UE|SMALL LETTER VOLAPUK UE",
    "a7a0 LATIN |CAPITAL LETTER G WITH OBLIQUE STROKE|SMALL LETTER G WITH OBLIQUE STROKE",
    "a7a2 LATIN |CAPITAL LETTER K WITH OBLIQUE STROKE|SMALL LETTER K WITH OBLIQUE STROKE",
    "a7a4 LATIN |CAPITAL LETTER N WITH OBLIQUE STROKE|SMALL LETTER N WITH OBLIQUE STROKE",
    "a7a6 LATIN |CAPITAL LETTER R WITH OBLIQUE STROKE|SMALL LETTER R WITH OBLIQUE STROKE",
    "a7a8 LATIN |CAPITAL LETTER S WITH OBLIQUE STROKE|SMALL LETTER S WITH OBLIQUE STROKE",
    "a7aa LATIN CAPITAL LETTER |H WITH HOOK|REVERSED OPEN E|SCRIPT G|L WITH BELT|SMALL CAPITAL I",
    "a7af |LATIN LETTER SMALL CAPITAL Q",
    "a7b0 LATIN CAPITAL LETTER |TURNED K|TURNED T|J WITH CROSSED-TAIL|CHI|BETA",
    "a7b5 |LATIN SMALL LETTER BETA",
    "a7b6 LATIN |CAPITAL LETTER OMEGA|SMALL LETTER OMEGA|CAPITAL LETTER U WITH STROKE",
    "a7b9 LATIN |SMALL LETTER U WITH STROKE|CAPITAL LETTER GLOTTAL A",
    "a7bb LATIN |SMALL LETTER GLOTTAL A|CAPITAL LETTER GLOTTAL I|SMALL LETTER GLOTTAL I",
    "a7be LATIN |CAPITAL LETTER GLOTTAL U|SMALL LETTER GLOTTAL U|CAPITAL LETTER OLD POLISH O",
    "a7c1 LATIN |SMALL LETTER OLD POLISH O|CAPITAL LETTER ANGLICANA W",
    "a7c3 LATIN |SMALL LETTER ANGLICANA W|CAPITAL LETTER C WITH PALATAL HOOK",
    "a7c5 LATIN CAPITAL LETTER |S WITH HOOK|Z WITH PALATAL HOOK|D WITH SHORT STROKE OVERLAY",
    "a7c8 |LATIN SMALL LETTER D WITH SHORT STROKE OVERLAY",
    "a7c9 |LATIN CAPITAL LETTER S WITH SHORT STROKE OVERLAY",
    "a7ca |LATIN SMALL LETTER S WITH SHORT STROKE OVERLAY",
    "a7d0 LATIN |CAPITAL LETTER CLOSED INSULAR G|SMALL LETTER CLOSED INSULAR G",
    "a7d3 |LATIN SMALL LETTER DOUBLE THORN",
    "a7d5 LATIN |SMALL LETTER DOUBLE WYNN|CAPITAL LETTER MIDDLE SCOTS S",
    "a7d7 LATIN |SMALL LETTER MIDDLE SCOTS S|CAPITAL LETTER SIGMOID S|SMALL LETTER SIGMOID S",
    "a7f2 MODIFIER LETTER CAPITAL |C|F|Q",
    "a7f5 |LATIN CAPITAL LETTER REVERSED HALF H",
    "a7f6 LATIN |SMALL LETTER REVERSED HALF H|EPIGRAPHIC LETTER SIDEWAYS I",
    "a7f8 MODIFIER LETTER |CAPITAL H WITH STROKE|SMALL LIGATURE OE",
    "a7fa |LATIN LETTER SMALL CAPITAL TURNED M",
    "a7fb LATIN EPIGRAPHIC LETTER |REVERSED F|REVERSED P|INVERTED M|I LONGA|ARCHAIC M",
    "a800 SYLOTI NAGRI |LETTER A|LETTER I|SIGN DVISVARA|LETTER U|LETTER E|LETTER O",
    "a806 SYLOTI NAGRI |SIGN HASANTA|LETTER KO|LETTER KHO|LETTER GO|LETTER GHO|SIGN ANUSVARA",
    "a80c SYLOTI NAGRI LETTER |CO|CHO|JO|JHO|TTO",
    "a811 SYLOTI NAGRI LETTER |TTHO|DDO|DDHO|TO|THO|DO|DHO|NO|PO|PHO|BO|BHO|MO|RO|LO|RRO|SO|HO",
    "a823 SYLOTI NAGRI VOWEL SIGN |A|I|U|E|OO",
    "a828 SYLOTI NAGRI POETRY |MARK-1|MARK-2|MARK-3|MARK-4",
    "a82c |SYLOTI NAGRI SIGN ALTERNATE HASANTA",
    "a830 NORTH INDIC FRACTION ONE |QUARTER|HALF",
    "a832 NORTH INDIC FRACTION |THREE QUARTERS|ONE SIXTEENTH|ONE EIGHTH|THREE SIXTEENTHS",
    "a836 NORTH INDIC |QUARTER MARK|PLACEHOLDER MARK|RUPEE MARK|QUANTITY MARK",
    "a840 PHAGS-PA LETTER |KA|KHA|GA|NGA|CA|CHA|JA|NYA|TA|THA|DA|NA|PA|PHA|BA|MA|TSA|TSHA",
    "a852 PHAGS-PA LETTER |DZA|WA|ZHA|ZA|SMALL A|YA|RA|LA|SHA|SA|HA|A|I|U|E|O|QA|XA|FA|GGA|EE",
    "a867 PHAGS-PA SUBJOINED LETTER |WA|YA",
    "a869 PHAGS-PA LETTER |TTA|TTHA|DDA|NNA|ALTERNATE YA|VOICELESS SHA|VOICED HA|ASPIRATED FA",
    "a871 PHAGS-PA |SUBJOINED LETTER RA|SUPERFIXED LETTER RA|LETTER CANDRABINDU",
    "a874 PHAGS-PA |SINGLE HEAD MARK|DOUBLE HEAD MARK|MARK SHAD|MARK DOUBLE SHAD",
    "a880 SAURASHTRA SIGN |ANUSVARA|VISARGA",
    "a882 SAURASHTRA LETTER |A|AA|I|II|U|UU|VOCALIC R|VOCALIC RR|VOCALIC L|VOCALIC LL|E",
    "a88d SAURASHTRA LETTER |EE|AI|O|OO|AU|KA|KHA|GA|GHA|NGA|CA|CHA|JA|JHA|NYA|TTA|TTHA|DDA|DDHA",
    "a8a0 SAURASHTRA LETTER |NNA|TA|THA|DA|DHA|NA|PA|PHA|BA|BHA|MA|YA|RA|LA|VA|SHA|SSA|SA|HA|LLA",
    "a8b4 SAURASHTRA |CONSONANT SIGN HAARU|VOWEL SIGN AA|VOWEL SIGN I|VOWEL SIGN II",
    "a8b8 SAURASHTRA VOWEL SIGN |U|UU|VOCALIC R|VOCALIC RR|VOCALIC L|VOCALIC LL|E|EE|AI|O|OO|AU",
    "a8c4 SAURASHTRA SIGN |VIRAMA|CANDRABINDU",
    "a8ce SAURASHTRA |DANDA|DOUBLE DANDA",
    "a8d0 SAURASHTRA DIGIT |ZERO|ONE|TWO|THREE|FOUR|FIVE|SIX|SEVEN|EIGHT|NINE",
    "a8e0 COMBINING DEVANAGARI DIGIT |ZERO|ONE|TWO|THREE|FOUR|FIVE|SIX|SEVEN|EIGHT|NINE",
    "a8ea COMBINING DEVANAGARI LETTER |A|U|KA|NA|PA|RA|VI",
    "a8f1 |COMBINING DEVANAGARI SIGN AVAGRAHA",
    "a8f2 DEVANAGARI SIGN |SPACING CANDRABINDU|CANDRABINDU VIRAMA|DOUBLE CANDRABINDU VIRAMA",
    "a8f5 DEVANAGARI SIGN |CANDRABINDU TWO|CANDRABINDU THREE|CANDRABINDU AVAGRAHA|PUSHPIKA",
    "a8f9 DEVANAGARI |GAP FILLER|CARET|HEADSTROKE|SIGN SIDDHAM|JAIN OM|LETTER AY|VOWEL SIGN AY",
    "a900 KAYAH LI DIGIT |ZERO|ONE|TWO|THREE|FOUR|FIVE|SIX|SEVEN|EIGHT|NINE",
    "a90a KAYAH LI LETTER |KA|KHA|GA|NGA|SA|SHA",
    "a910 KAYAH LI LETTER |ZA|NYA|TA|HTA|NA|PA|PHA|MA|DA|BA|RA|YA|LA|WA|THA|HA|VA|CA|A|OE|I|OO",
    "a926 KAYAH LI VOWEL |UE|E|U|EE|O",
    "a92b KAYAH LI |TONE PLOPHU|TONE CALYA|TONE CALYA PLOPHU|SIGN CWI|SIGN SHYA",
    "a930 REJANG LETTER |KA|GA",
    "a932 REJANG LETTER |NGA|TA|DA|NA|PA|BA|MA|CA|JA|NYA|SA|RA|LA|YA|WA|HA|MBA|NGGA|NDA|NYJA|A",
    "a947 REJANG VOWEL SIGN |I|U|E|AI|O|AU|EU|EA",
    "a94f REJANG CONSONANT SIGN |NG|N|R|H",
    "a953 |REJANG VIRAMA",
    "a95f |REJANG SECTION MARK",
    "a960 HANGUL CHOSEONG |TIKEUT-MIEUM|TIKEUT-PIEUP",
    "a962 HANGUL CHOSEONG |TIKEUT-SIOS|TIKEUT-CIEUC|RIEUL-KIYEOK|RIEUL-SSANGKIYEOK|RIEUL-TIKEUT",
    "a967 HANGUL CHOSEONG |RIEUL-SSANGTIKEUT|RIEUL-MIEUM|RIEUL-PIEUP|RIEUL-SSANGPIEUP",
    "a96b HANGUL CHOSEONG |RIEUL-KAPYEOUNPIEUP|RIEUL-SIOS|RIEUL-CIEUC|RIEUL-KHIEUKH",
    "a96f HANGUL CHOSEONG |MIEUM-KIYEOK|MIEUM-TIKEUT|MIEUM-SIOS|PIEUP-SIOS-THIEUTH|PIEUP-KHIEUKH",
    "a974 HANGUL CHOSEONG |PIEUP-HIEUH|SSANGSIOS-PIEUP|IEUNG-RIEUL|IEUNG-HIEUH|SSANGCIEUC-HIEUH",
    "a979 HANGUL CHOSEONG |SSANGTHIEUTH|PHIEUPH-HIEUH|HIEUH-SIOS|SSANGYEORINHIEUH",
    "a980 JAVANESE SIGN |PANYANGGA|CECAK|LAYAR|WIGNYAN",
    "a984 JAVANESE LETTER |A|I KAWI|I|II|U|PA CEREK",
    "a98a JAVANESE LETTER |NGA LELET|NGA LELET RASWADI|E|AI|O|KA|KA SASAK|KA MURDA|GA|GA MURDA",
    "a994 JAVANESE LETTER |NGA|CA|CA MURDA|JA|NYA MURDA|JA MAHAPRANA|NYA|TTA|TTA MAHAPRANA",
    "a99d JAVANESE LETTER |DDA|DDA MAHAPRANA|NA MURDA|TA|TA MURDA|DA|DA MAHAPRANA|NA|PA|PA MURDA",
    "a9a7 JAVANESE LETTER |BA|BA MURDA|MA|YA|RA|RA AGUNG|LA|WA|SA MURDA|SA MAHAPRANA|SA|HA",
    "a9b3 JAVANESE |SIGN CECAK TELU|VOWEL SIGN TARUNG",
    "a9b5 JAVANESE VOWEL SIGN |TOLONG|WULU|WULU MELIK|SUKU|SUKU MENDUT|TALING|DIRGA MURE|PEPET",
    "a9bd JAVANESE CONSONANT SIGN |KERET|PENGKAL|CAKRA",
    "a9c0 JAVANESE |PANGKON|LEFT RERENGGAN|RIGHT RERENGGAN",
    "a9c3 JAVANESE PADA |ANDAP|MADYA|LUHUR|WINDU|PANGKAT|LINGSA|LUNGSI|ADEG|ADEG ADEG|PISELEH",
    "a9cd |JAVANESE TURNED PADA PISELEH",
    "a9cf |JAVANESE PANGRANGKEP",
    "a9d0 JAVANESE DIGIT |ZERO|ONE|TWO|THREE|FOUR|FIVE|SIX|SEVEN|EIGHT|NINE",
    "a9de JAVANESE PADA |TIRTA TUMETES|ISEN-ISEN",
    "a9e0 MYANMAR LETTER SHAN |GHA|CHA|JHA|NNA|BHA",
    "a9e5 MYANMAR |SIGN SHAN SAW|MODIFIER LETTER SHAN REDUPLICATION",
    "a9e7 MYANMAR LETTER TAI LAING |NYA|FA|GA|GHA|JA|JHA|DDA|DDHA|NNA",
    "a9f0 MYANMAR TAI LAING DIGIT |ZERO|ONE|TWO|THREE|FOUR|FIVE|SIX|SEVEN|EIGHT|NINE",
    "a9fa MYANMAR LETTER TAI LAING |LLA|DA|DHA|BA|BHA",
    "aa00 CHAM LETTER |A|I|U|E|AI|O|KA|KHA|GA|GHA|NGUE|NGA|CHA|CHHA|JA|JHA|NHUE|NHA|NHJA|TA",
    "aa14 CHAM LETTER |THA|DA|DHA|NUE|NA|DDA|PA|PPA|PHA|BA|BHA|MUE|MA|BBA|YA|RA|LA|VA|SSA|SA|HA",
    "aa29 CHAM VOWEL SIGN |AA|I|II|EI|U|OE|O|AI|AU|UE",
    "aa33 CHAM CONSONANT SIGN |YA|RA|LA|WA",
    "aa40 CHAM LETTER FINAL |K|G|NG",
    "aa43 |CHAM CONSONANT SIGN FINAL NG",
    "aa44 CHAM LETTER FINAL |CH|T|N|P|Y|R|L|SS",
    "aa4c CHAM CONSONANT SIGN FINAL |M|H",
    "aa50 CHAM DIGIT |ZERO|ONE|TWO|THREE|FOUR|FIVE|SIX|SEVEN|EIGHT|NINE",
    "aa5c CHAM PUNCTUATION |SPIRAL|DANDA|DOUBLE DANDA|TRIPLE DANDA",
    "aa60 MYANMAR LETTER KHAMTI |GA|CA|CHA|JA|JHA|NYA|TTA|TTHA|DDA|DDHA|DHA|NA|SA|HA|HHA|FA",
    "aa70 |MYANMAR MODIFIER LETTER KHAMTI REDUPLICATION",
    "aa71 MYANMAR LETTER KHAMTI |XA|ZA|RA",
    "aa74 MYANMAR LOGOGRAM KHAMTI |OAY|QN|HM",
    "aa77 MYANMAR SYMBOL AITON |EXCLAMATION|ONE|TWO",
    "aa7a MYANMAR |LETTER AITON RA|SIGN PAO KAREN TONE",
    "aa7c MYANMAR SIGN TAI LAING |TONE-2|TONE-5",
    "aa7e MYANMAR LETTER SHWE PALAUNG |CHA|SHA",
    "aa80 TAI VIET LETTER |LOW KO|HIGH KO|LOW KHO|HIGH KHO|LOW KHHO",
    "aa85 TAI VIET LETTER |HIGH KHHO|LOW GO|HIGH GO|LOW NGO|HIGH NGO|LOW CO|HIGH CO|LOW CHO",
    "aa8d TAI VIET LETTER |HIGH CHO|LOW SO|HIGH SO|LOW NYO|HIGH NYO|LOW DO|HIGH DO|LOW TO",
    "aa95 TAI VIET LETTER |HIGH TO|LOW THO|HIGH THO|LOW NO|HIGH NO|LOW BO|HIGH BO|LOW PO|HIGH PO",
    "aa9e TAI VIET LETTER |LOW PHO|HIGH PHO|LOW FO|HIGH FO|LOW MO|HIGH MO|LOW YO|HIGH YO|LOW RO",
    "aaa7 TAI VIET LETTER |HIGH RO|LOW LO|HIGH LO|LOW VO|HIGH VO|LOW HO|HIGH HO|LOW O|HIGH O",
    "aab0 TAI VIET |MAI KANG|VOWEL AA|VOWEL I|VOWEL UE|VOWEL U|VOWEL E|VOWEL O|MAI KHIT",
    "aab8 TAI VIET VOWEL |IA|UEA|UA|AUE|AY|AN|AM",
    "aabf TAI VIET TONE MAI |EK|NUENG|THO|SONG",
    "aadb TAI VIET SYMBOL |KON|NUENG|SAM|HO HOI|KOI KOI",
    "aae0 MEETEI MAYEK LETTER |E|O|CHA|NYA|TTA|TTHA|DDA|DDHA|NNA|SHA|SSA",
    "aaeb MEETEI MAYEK VOWEL SIGN |II|UU|AAI|AU|AAU",
    "aaf0 MEETEI MAYEK |CHEIKHAN|AHANG KHUDAM|ANJI",
    "aaf3 MEETEI MAYEK |SYLLABLE REPETITION MARK|WORD REPETITION MARK|VOWEL SIGN VISARGA|VIRAMA",
    "ab01 ETHIOPIC SYLLABLE |TTHU|TTHI|TTHAA|TTHEE|TTHE|TTHO",
    "ab09 ETHIOPIC SYLLABLE |DDHU|DDHI|DDHAA|DDHEE|DDHE|DDHO",
    "ab11 ETHIOPIC SYLLABLE |DZU|DZI|DZAA|DZEE|DZE|DZO",
    "ab20 ETHIOPIC SYLLABLE |CCHHA|CCHHU|CCHHI|CCHHAA|CCHHEE|CCHHE|CCHHO",
    "ab28 ETHIOPIC SYLLABLE |BBA|BBU|BBI|BBAA|BBEE|BBE|BBO",
    "ab30 LATIN SMALL LETTER |BARRED ALPHA|A REVERSED-SCHWA|BLACKLETTER E",
    "ab33 LATIN SMALL LETTER |BARRED E|E WITH FLOURISH|LENIS F|SCRIPT G WITH CROSSED-TAIL",
    "ab37 LATIN SMALL LETTER L WITH |INVERTED LAZY S|DOUBLE MIDDLE TILDE|MIDDLE RING",
    "ab3a LATIN SMALL LETTER |M WITH CROSSED-TAIL|N WITH CROSSED-TAIL|ENG WITH CROSSED-TAIL",
    "ab3d LATIN SMALL LETTER BLACKLETTER |O|O WITH STROKE",
    "ab3f LATIN SMALL LETTER |OPEN O WITH STROKE|INVERTED OE|TURNED OE WITH STROKE",
    "ab42 LATIN SMALL LETTER TURNED |OE WITH HORIZONTAL STROKE|O OPEN-O|O OPEN-O WITH STROKE",
    "ab45 LATIN |SMALL LETTER STIRRUP R|LETTER SMALL CAPITAL R WITH RIGHT LEG",
    "ab47 LATIN SMALL LETTER |R WITHOUT HANDLE|DOUBLE R|R WITH CROSSED-TAIL",
    "ab4a LATIN SMALL LETTER |DOUBLE R WITH CROSSED-TAIL|SCRIPT R|SCRIPT R WITH RING",
    "ab4d LATIN SMALL LETTER |BASELINE ESH|U WITH SHORT RIGHT LEG|U BAR WITH SHORT RIGHT LEG",
    "ab50 LATIN SMALL LETTER |UI|TURNED UI|U WITH LEFT HOOK|CHI|CHI WITH LOW RIGHT RING",
    "ab55 LATIN SMALL LETTER |CHI WITH LOW LEFT SERIF|X WITH LOW RIGHT RING",
    "ab57 LATIN SMALL LETTER X WITH LONG LEFT |LEG|LEG AND LOW RIGHT RING|LEG WITH SERIF",
    "ab5a |LATIN SMALL LETTER Y WITH SHORT RIGHT LEG",
    "ab5b MODIFIER |BREVE WITH INVERTED BREVE|LETTER SMALL HENG",
    "ab5d MODIFIER LETTER SMALL |L WITH INVERTED LAZY S|L WITH MIDDLE TILDE|U WITH LEFT HOOK",
    "ab60 LATIN SMALL LETTER |SAKHA YAT|IOTIFIED E|OPEN OE|UO|INVERTED ALPHA",
    "ab65 |GREEK LETTER SMALL CAPITAL OMEGA|LATIN SMALL LETTER DZ DIGRAPH WITH RETROFLEX HOOK",
    "ab67 LATIN SMALL LETTER |TS DIGRAPH WITH RETROFLEX HOOK|TURNED R WITH MIDDLE TILDE",
    "ab69 MODIFIER LETTER |SMALL TURNED W|LEFT TACK|RIGHT TACK",
    "ab70 |CHEROKEE SMALL LETTER A",
    "ab71 CHEROKEE SMALL LETTER |E|I|O|U|V|GA|KA|GE|GI|GO|GU|GV|HA|HE|HI|HO|HU|HV|LA|LE|LI|LO|LU",
    "ab88 CHEROKEE SMALL LETTER |LV|MA|ME|MI|MO|MU|NA|HNA|NAH|NE|NI|NO|NU|NV|QUA|QUE|QUI|QUO|QUU",
    "ab9b CHEROKEE SMALL LETTER |QUV|SA|S|SE|SI|SO|SU|SV|DA|TA|DE|TE|DI|TI|DO|DU|DV|DLA|TLA|TLE",
    "abaf CHEROKEE SMALL LETTER |TLI|TLO|TLU|TLV|TSA|TSE|TSI|TSO|TSU|TSV|WA|WE|WI|WO|WU|WV|YA",
    "abc0 MEETEI MAYEK LETTER |KOK|SAM|LAI",
    "abc3 MEETEI MAYEK LETTER |MIT|PA|NA|CHIL|TIL|KHOU|NGOU|THOU|WAI|YANG|HUK|UN|I|PHAM|ATIYA",
    "abd2 MEETEI MAYEK LETTER |GOK|JHAM|RAI|BA|JIL|DIL|GHOU|DHOU|BHAM|KOK LONSUM|LAI LONSUM",
    "abdd MEETEI MAYEK LETTER |MIT LONSUM|PA LONSUM|NA LONSUM|TIL LONSUM|NGOU LONSUM|I LONSUM",
    "abe3 MEETEI MAYEK VOWEL SIGN |ONAP|INAP|ANAP|YENAP|SOUNAP|UNAP|CHEINAP|NUNG",
    "abeb MEETEI MAYEK |CHEIKHEI|LUM IYEK|APUN IYEK",
    "abf0 MEETEI MAYEK DIGIT |ZERO|ONE|TWO|THREE|FOUR|FIVE|SIX|SEVEN|EIGHT|NINE",
    "d7b0 HANGUL JUNGSEONG |O-YEO|O-O-I|YO-A|YO-AE|YO-EO|U-YEO|U-I-I|YU-AE|YU-O|EU-A|EU-EO|EU-E",
    "d7bc HANGUL JUNGSEONG |EU-O|I-YA-O|I-YAE|I-YEO|I-YE|I-O-I|I-YO|I-YU|I-I|ARAEA-A|ARAEA-E",
    "d7cb HANGUL JONGSEONG |NIEUN-RIEUL|NIEUN-CHIEUCH|SSANGTIKEUT|SSANGTIKEUT-PIEUP",
    "d7cf HANGUL JONGSEONG |TIKEUT-PIEUP|TIKEUT-SIOS|TIKEUT-SIOS-KIYEOK|TIKEUT-CIEUC",
    "d7d3 HANGUL JONGSEONG |TIKEUT-CHIEUCH|TIKEUT-THIEUTH|RIEUL-SSANGKIYEOK|RIEUL-KIYEOK-HIEUH",
    "d7d7 HANGUL JONGSEONG |SSANGRIEUL-KHIEUKH|RIEUL-MIEUM-HIEUH|RIEUL-PIEUP-TIKEUT",
    "d7da HANGUL JONGSEONG |RIEUL-PIEUP-PHIEUPH|RIEUL-YESIEUNG|RIEUL-YEORINHIEUH-HIEUH",
    "d7dd HANGUL JONGSEONG |KAPYEOUNRIEUL|MIEUM-NIEUN|MIEUM-SSANGNIEUN|SSANGMIEUM",
    "d7e1 HANGUL JONGSEONG |MIEUM-PIEUP-SIOS|MIEUM-CIEUC|PIEUP-TIKEUT|PIEUP-RIEUL-PHIEUPH",
    "d7e5 HANGUL JONGSEONG |PIEUP-MIEUM|SSANGPIEUP|PIEUP-SIOS-TIKEUT|PIEUP-CIEUC|PIEUP-CHIEUCH",
    "d7ea HANGUL JONGSEONG |SIOS-MIEUM|SIOS-KAPYEOUNPIEUP|SSANGSIOS-KIYEOK|SSANGSIOS-TIKEUT",
    "d7ee HANGUL JONGSEONG |SIOS-PANSIOS|SIOS-CIEUC|SIOS-CHIEUCH|SIOS-THIEUTH|SIOS-HIEUH",
    "d7f3 HANGUL JONGSEONG |PANSIOS-PIEUP|PANSIOS-KAPYEOUNPIEUP|YESIEUNG-MIEUM|YESIEUNG-HIEUH",
    "d7f7 HANGUL JONGSEONG |CIEUC-PIEUP|CIEUC-SSANGPIEUP|SSANGCIEUC|PHIEUPH-SIOS|PHIEUPH-THIEUTH"]

end Name
end Text
end DebugIndex
