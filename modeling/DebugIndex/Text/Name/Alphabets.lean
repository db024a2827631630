/-!
# The names of the alphabets from Latin to Sinhala

The names that Unicode 14 gives to the code points from U+0000 to U+0DF4.  A row
begins with its first code point and what its names have in common; the endings
of the names of that point and those behind it follow, each after a bar.
-/

namespace DebugIndex
namespace Text
namespace Name

/-- The rows of the table, in ascending order. -/
def alphabetsRows : List String :=
  ["20 |SPACE|EXCLAMATION MARK|QUOTATION MARK",
    "23 |NUMBER SIGN|DOLLAR SIGN|PERCENT SIGN|AMPERSAND|APOSTROPHE|LEFT PARENTHESIS",
    "29 |RIGHT PARENTHESIS|ASTERISK|PLUS SIGN|COMMA|HYPHEN-MINUS|FULL STOP|SOLIDUS",
    "30 DIGIT |ZERO|ONE|TWO|THREE|FOUR|FIVE|SIX|SEVEN|EIGHT|NINE",
    "3a |COLON",
    "3b |SEMICOLON|LESS-THAN SIGN|EQUALS SIGN|GREATER-THAN SIGN|QUESTION MARK|COMMERCIAL AT",
    "41 LATIN CAPITAL LETTER |A|B|C|D|E|F|G|H|I|J|K|L|M|N|O|P|Q|R|S|T|U|V|W|X|Y|Z",
    "5b |LEFT SQUARE BRACKET",
    "5c |REVERSE SOLIDUS|RIGHT SQUARE BRACKET|CIRCUMFLEX ACCENT|LOW LINE|GRAVE ACCENT",
    "61 LATIN SMALL LETTER |A|B|C|D|E|F|G|H|I|J|K|L|M|N|O|P|Q|R|S|T|U|V|W|X|Y|Z",
    "7b |LEFT CURLY BRACKET|VERTICAL LINE|RIGHT CURLY BRACKET|TILDE",
    "a0 |NO-BREAK SPACE|INVERTED EXCLAMATION MARK",
    "a2 |CENT SIGN|POUND SIGN|CURRENCY SIGN|YEN SIGN|BROKEN BAR|SECTION SIGN|DIAERESIS",
    "a9 COPY|RIGHT SIGN",
    "aa |FEMININE ORDINAL INDICATOR|LEFT-POINTING DOUBLE ANGLE QUOTATION MARK",
    "ac |NOT SIGN|SOFT HYPHEN|REGISTERED SIGN|MACRON|DEGREE SIGN|PLUS-MINUS SIGN",
    "b2 SUPERSCRIPT |TWO|THREE",
    "b4 |ACUTE ACCENT|MICRO SIGN|PILCROW SIGN|MIDDLE DOT|CEDILLA|SUPERSCRIPT ONE",
    "ba |MASCULINE ORDINAL INDICATOR|RIGHT-POINTING DOUBLE ANGLE QUOTATION MARK",
    "bc VULGAR FRACTION |ONE QUARTER|ONE HALF|THREE QUARTERS",
    "bf |INVERTED QUESTION MARK",
    "c0 LATIN CAPITAL LETTER A WITH |GRAVE|ACUTE|CIRCUMFLEX|TILDE|DIAERESIS|RING ABOVE",
    "c6 LATIN CAPITAL LETTER |AE|C WITH CEDILLA",
    "c8 LATIN CAPITAL LETTER E WITH |GRAVE|ACUTE|CIRCUMFLEX|DIAERESIS",
    "cc LATIN CAPITAL LETTER I WITH |GRAVE|ACUTE|CIRCUMFLEX|DIAERESIS",
    "d0 LATIN CAPITAL LETTER |ETH|N WITH TILDE",
    "d2 LATIN CAPITAL LETTER O WITH |GRAVE|ACUTE|CIRCUMFLEX|TILDE|DIAERESIS",
    "d7 |MULTIPLICATION SIGN|LATIN CAPITAL LETTER O WITH STROKE",
    "d9 LATIN CAPITAL LETTER U WITH |GRAVE|ACUTE|CIRCUMFLEX|DIAERESIS",
    "dd LATIN |CAPITAL LETTER Y WITH ACUTE|CAPITAL LETTER THORN|SMALL LETTER SHARP S",
    "e0 LATIN SMALL LETTER A WITH |GRAVE|ACUTE|CIRCUMFLEX|TILDE|DIAERESIS|RING ABOVE",
    "e6 LATIN SMALL LETTER |AE|C WITH CEDILLA",
    "e8 LATIN SMALL LETTER E WITH |GRAVE|ACUTE|CIRCUMFLEX|DIAERESIS",
    "ec LATIN SMALL LETTER I WITH |GRAVE|ACUTE|CIRCUMFLEX|DIAERESIS",
    "f0 LATIN SMALL LETTER |ETH|N WITH TILDE",
    "f2 LATIN SMALL LETTER O WITH |GRAVE|ACUTE|CIRCUMFLEX|TILDE|DIAERESIS",
    "f7 |DIVISION SIGN|LATIN SMALL LETTER O WITH STROKE",
    "f9 LATIN SMALL LETTER U WITH |GRAVE|ACUTE|CIRCUMFLEX|DIAERESIS",
    "fd LATIN SMALL LETTER |Y WITH ACUTE|THORN|Y WITH DIAERESIS",
    "100 |LATIN CAPITAL LETTER A WITH MACRON",
    "101 LATIN |SMALL LETTER A WITH MACRON|CAPITAL LETTER A WITH BREVE",
    "103 LATIN |SMALL LETTER A WITH BREVE|CAPITAL LETTER A WITH OGONEK",
    "105 LATIN |SMALL LETTER A WITH OGONEK|CAPITAL LETTER C WITH ACUTE",
    "107 LATIN |SMALL LETTER C WITH ACUTE|CAPITAL LETTER C WITH CIRCUMFLEX",
    "109 LATIN |SMALL LETTER C WITH CIRCUMFLEX|CAPITAL LETTER C WITH DOT ABOVE",
    "10b LATIN |SMALL LETTER C WITH DOT ABOVE|CAPITAL LETTER C WITH CARON",
    "10d LATIN |SMALL LETTER C WITH CARON|CAPITAL LETTER D WITH CARON|SMALL LETTER D WITH CARON",
    "110 LATIN |CAPITAL LETTER D WITH STROKE|SMALL LETTER D WITH STROKE",
    "112 LATIN |CAPITAL LETTER E WITH MACRON|SMALL LETTER E WITH MACRON",
    "114 LATIN |CAPITAL LETTER E WITH BREVE|SMALL LETTER E WITH BREVE",
    "116 LATIN |CAPITAL LETTER E WITH DOT ABOVE|SMALL LETTER E WITH DOT ABOVE",
    "118 LATIN |CAPITAL LETTER E WITH OGONEK|SMALL LETTER E WITH OGONEK",
    "11a LATIN |CAPITAL LETTER E WITH CARON|SMALL LETTER E WITH CARON",
    "11c LATIN |CAPITAL LETTER G WITH CIRCUMFLEX|SMALL LETTER G WITH CIRCUMFLEX",
    "11e LATIN |CAPITAL LETTER G WITH BREVE|SMALL LETTER G WITH BREVE",
    "120 LATIN |CAPITAL LETTER G WITH DOT ABOVE|SMALL LETTER G WITH DOT ABOVE",
    "122 LATIN |CAPITAL LETTER G WITH CEDILLA|SMALL LETTER G WITH CEDILLA",
    "124 LATIN |CAPITAL LETTER H WITH CIRCUMFLEX|SMALL LETTER H WITH CIRCUMFLEX",
    "126 LATIN |CAPITAL LETTER H WITH STROKE|SMALL LETTER H WITH STROKE",
    "128 LATIN |CAPITAL LETTER I WITH TILDE|SMALL LETTER I WITH TILDE",
    "12a LATIN |CAPITAL LETTER I WITH MACRON|SMALL LETTER I WITH MACRON",
    "12c LATIN |CAPITAL LETTER I WITH BREVE|SMALL LETTER I WITH BREVE",
    "12e LATIN |CAPITAL LETTER I WITH OGONEK|SMALL LETTER I WITH OGONEK",
    "130 LATIN |CAPITAL LETTER I WITH DOT ABOVE|SMALL LETTER DOTLESS I",
    "132 LATIN |CAPITAL LIGATURE IJ|SMALL LIGATURE IJ|CAPITAL LETTER J WITH CIRCUMFLEX",
    "135 LATIN |SMALL LETTER J WITH CIRCUMFLEX|CAPITAL LETTER K WITH CEDILLA",
    "137 LATIN |SMALL LETTER K WITH CEDILLA|SMALL LETTER KRA|CAPITAL LETTER L WITH ACUTE",
    "13a LATIN |SMALL LETTER L WITH ACUTE|CAPITAL LETTER L WITH CEDILLA",
    "13c LATIN |SMALL LETTER L WITH CEDILLA|CAPITAL LETTER L WITH CARON",
    "13e LATIN |SMALL LETTER L WITH CARON|CAPITAL LETTER L WITH MIDDLE DOT",
    "140 LATIN |SMALL LETTER L WITH MIDDLE DOT|CAPITAL LETTER L WITH STROKE",
    "142 LATIN |SMALL LETTER L WITH STROKE|CAPITAL LETTER N WITH ACUTE",
    "144 LATIN |SMALL LETTER N WITH ACUTE|CAPITAL LETTER N WITH CEDILLA",
    "146 LATIN |SMALL LETTER N WITH CEDILLA|CAPITAL LETTER N WITH CARON",
    "148 LATIN SMALL LETTER N |WITH CARON|PRECEDED BY APOSTROPHE",
    "14a |LATIN CAPITAL LETTER ENG",
    "14b LATIN |SMALL LETTER ENG|CAPITAL LETTER O WITH MACRON|SMALL LETTER O WITH MACRON",
    "14e LATIN |CAPITAL LETTER O WITH BREVE|SMALL LETTER O WITH BREVE",
    "150 LATIN |CAPITAL LETTER O WITH DOUBLE ACUTE|SMALL LETTER O WITH DOUBLE ACUTE",
    "152 LATIN |CAPITAL LIGATURE OE|SMALL LIGATURE OE|CAPITAL LETTER R WITH ACUTE",
    "155 LATIN |SMALL LETTER R WITH ACUTE|CAPITAL LETTER R WITH CEDILLA",
    "157 LATIN |SMALL LETTER R WITH CEDILLA|CAPITAL LETTER R WITH CARON",
    "159 LATIN |SMALL LETTER R WITH CARON|CAPITAL LETTER S WITH ACUTE|SMALL LETTER S WITH ACUTE",
    "15c LATIN |CAPITAL LETTER S WITH CIRCUMFLEX|SMALL LETTER S WITH CIRCUMFLEX",
    "15e LATIN |CAPITAL LETTER S WITH CEDILLA|SMALL LETTER S WITH CEDILLA",
    "160 LATIN |CAPITAL LETTER S WITH CARON|SMALL LETTER S WITH CARON",
    "162 LATIN |CAPITAL LETTER T WITH CEDILLA|SMALL LETTER T WITH CEDILLA",
    "164 LATIN |CAPITAL LETTER T WITH CARON|SMALL LETTER T WITH CARON",
    "166 LATIN |CAPITAL LETTER T WITH STROKE|SMALL LETTER T WITH STROKE",
    "168 LATIN |CAPITAL LETTER U WITH TILDE|SMALL LETTER U WITH TILDE",
    "16a LATIN |CAPITAL LETTER U WITH MACRON|SMALL LETTER U WITH MACRON",
    "16c LATIN |CAPITAL LETTER U WITH BREVE|SMALL LETTER U WITH BREVE",
    "16e LATIN |CAPITAL LETTER U WITH RING ABOVE|SMALL LETTER U WITH RING ABOVE",
    "170 LATIN |CAPITAL LETTER U WITH DOUBLE ACUTE|SMALL LETTER U WITH DOUBLE ACUTE",
    "172 LATIN |CAPITAL LETTER U WITH OGONEK|SMALL LETTER U WITH OGONEK",
    "174 LATIN |CAPITAL LETTER W WITH CIRCUMFLEX|SMALL LETTER W WITH CIRCUMFLEX",
    "176 LATIN |CAPITAL LETTER Y WITH CIRCUMFLEX|SMALL LETTER Y WITH CIRCUMFLEX",
    "178 LATIN CAPITAL LETTER |Y WITH DIAERESIS|Z WITH ACUTE",
    "17a LATIN |SMALL LETTER Z WITH ACUTE|CAPITAL LETTER Z WITH DOT ABOVE",
    "17c LATIN |SMALL LETTER Z WITH DOT ABOVE|CAPITAL LETTER Z WITH CARON",
    "17e LATIN SMALL LETTER |Z WITH CARON|LONG S|B WITH STROKE",
    "181 LATIN CAPITAL LETTER B WITH |HOOK|TOPBAR",
    "183 LATIN |SMALL LETTER B WITH TOPBAR|CAPITAL LETTER TONE SIX|SMALL LETTER TONE SIX",
    "186 LATIN |CAPITAL LETTER OPEN O|CAPITAL LETTER C WITH HOOK|SMALL LETTER C WITH HOOK",
    "189 LATIN CAPITAL LETTER |AFRICAN D|D WITH HOOK|D WITH TOPBAR",
    "18c LATIN SMALL LETTER |D WITH TOPBAR|TURNED DELTA",
    "18e LATIN CAPITAL LETTER |REVERSED E|SCHWA|OPEN E|F WITH HOOK",
    "192 |LATIN SMALL LETTER F WITH HOOK",
    "193 LATIN |CAPITAL LETTER G WITH HOOK|CAPITAL LETTER GAMMA|SMALL LETTER HV",
    "196 LATIN CAPITAL LETTER |IOTA|I WITH STROKE|K WITH HOOK",
    "199 LATIN SMALL LETTER |K WITH HOOK|L WITH BAR|LAMBDA WITH STROKE",
    "19c LATIN CAPITAL LETTER |TURNED M|N WITH LEFT HOOK",
    "19e |LATIN SMALL LETTER N WITH LONG RIGHT LEG",
    "19f LATIN CAPITAL LETTER O WITH |MIDDLE TILDE|HORN",
    "1a1 LATIN |SMALL LETTER O WITH HORN|CAPITAL LETTER OI",
    "1a3 LATIN |SMALL LETTER OI|CAPITAL LETTER P WITH HOOK|SMALL LETTER P WITH HOOK",
    "1a6 LATIN |LETTER YR|CAPITAL LETTER TONE TWO|SMALL LETTER TONE TWO",
    "1a9 LATIN |CAPITAL LETTER ESH|LETTER REVERSED ESH LOOP|SMALL LETTER T WITH PALATAL HOOK",
    "1ac LATIN |CAPITAL LETTER T WITH HOOK|SMALL LETTER T WITH HOOK",
    "1ae LATIN CAPITAL LETTER |T WITH RETROFLEX HOOK|U WITH HORN",
    "1b0 |LATIN SMALL LETTER U WITH HORN",
    "1b1 LATIN CAPITAL LETTER |UPSILON|V WITH HOOK|Y WITH HOOK",
    "1b4 LATIN |SMALL LETTER Y WITH HOOK|CAPITAL LETTER Z WITH STROKE",
    "1b6 LATIN |SMALL LETTER Z WITH STROKE|CAPITAL LETTER EZH|CAPITAL LETTER EZH REVERSED",
    "1b9 LATIN SMALL LETTER EZH |REVERSED|WITH TAIL",
    "1bb LATIN |LETTER TWO WITH STROKE|CAPITAL LETTER TONE FIVE",
    "1bd LATIN |SMALL LETTER TONE FIVE|LETTER INVERTED GLOTTAL STOP WITH STROKE",
    "1bf LATIN LETTER |WYNN|DENTAL CLICK|LATERAL CLICK|ALVEOLAR CLICK|RETROFLEX CLICK",
    "1c4 LATIN CAPITAL LETTER |DZ WITH CARON|D WITH SMALL LETTER Z WITH CARON",
    "1c6 |LATIN SMALL LETTER DZ WITH CARON",
    "1c7 LATIN CAPITAL LETTER |LJ|L WITH SMALL LETTER J",
    "1c9 LATIN |SMALL LETTER LJ|CAPITAL LETTER NJ|CAPITAL LETTER N WITH SMALL LETTER J",
    "1cc LATIN |SMALL LETTER NJ|CAPITAL LETTER A WITH CARON",
    "1ce LATIN |SMALL LETTER A WITH CARON|CAPITAL LETTER I WITH CARON",
    "1d0 LATIN |SMALL LETTER I WITH CARON|CAPITAL LETTER O WITH CARON",
    "1d2 LATIN |SMALL LETTER O WITH CARON|CAPITAL LETTER U WITH CARON",
    "1d4 LATIN |SMALL LETTER U WITH CARON|CAPITAL LETTER U WITH DIAERESIS AND MACRON",
    "1d6 |LATIN SMALL LETTER U WITH DIAERESIS AND MACRON",
    "1d7 |LATIN CAPITAL LETTER U WITH DIAERESIS AND ACUTE",
    "1d8 |LATIN SMALL LETTER U WITH DIAERESIS AND ACUTE",
    "1d9 |LATIN CAPITAL LETTER U WITH DIAERESIS AND CARON",
    "1da |LATIN SMALL LETTER U WITH DIAERESIS AND CARON",
    "1db |LATIN CAPITAL LETTER U WITH DIAERESIS AND GRAVE",
    "1dc LATIN SMALL LETTER |U WITH DIAERESIS AND GRAVE|TURNED E",
    "1de |LATIN CAPITAL LETTER A WITH DIAERESIS AND MACRON",
    "1df |LATIN SMALL LETTER A WITH DIAERESIS AND MACRON",
    "1e0 |LATIN CAPITAL LETTER A WITH DOT ABOVE AND MACRON",
    "1e1 LATIN |SMALL LETTER A WITH DOT ABOVE AND MACRON|CAPITAL LETTER AE WITH MACRON",
    "1e3 LATIN |SMALL LETTER AE WITH MACRON|CAPITAL LETTER G WITH STROKE",
    "1e5 LATIN |SMALL LETTER G WITH STROKE|CAPITAL LETTER G WITH CARON",
    "1e7 LATIN |SMALL LETTER G WITH CARON|CAPITAL LETTER K WITH CARON",
    "1e9 LATIN |SMALL LETTER K WITH CARON|CAPITAL LETTER O WITH OGONEK",
    "1eb LATIN |SMALL LETTER O WITH OGONEK|CAPITAL LETTER O WITH OGONEK AND MACRON",
    "1ed LATIN |SMALL LETTER O WITH OGONEK AND MACRON|CAPITAL LETTER EZH WITH CARON",
    "1ef LATIN SMALL LETTER |EZH WITH CARON|J WITH CARON",
    "1f1 LATIN CAPITAL LETTER |DZ|D WITH SMALL LETTER Z",
    "1f3 LATIN |SMALL LETTER DZ|CAPITAL LETTER G WITH ACUTE|SMALL LETTER G WITH ACUTE",
    "1f6 LATIN CAPITAL LETTER |HWAIR|WYNN|N WITH GRAVE",
    "1f9 LATIN |SMALL LETTER N WITH GRAVE|CAPITAL LETTER A WITH RING ABOVE AND ACUTE",
    "1fb LATIN |SMALL LETTER A WITH RING ABOVE AND ACUTE|CAPITAL LETTER AE WITH ACUTE",
    "1fd LATIN |SMALL LETTER AE WITH ACUTE|CAPITAL LETTER O WITH STROKE AND ACUTE",
    "1ff LATIN |SMALL LETTER O WITH STROKE AND ACUTE|CAPITAL LETTER A WITH DOUBLE GRAVE",
    "201 LATIN |SMALL LETTER A WITH DOUBLE GRAVE|CAPITAL LETTER A WITH INVERTED BREVE",
    "203 LATIN |SMALL LETTER A WITH INVERTED BREVE|CAPITAL LETTER E WITH DOUBLE GRAVE",
    "205 LATIN |SMALL LETTER E WITH DOUBLE GRAVE|CAPITAL LETTER E WITH INVERTED BREVE",
    "207 LATIN |SMALL LETTER E WITH INVERTED BREVE|CAPITAL LETTER I WITH DOUBLE GRAVE",
    "209 LATIN |SMALL LETTER I WITH DOUBLE GRAVE|CAPITAL LETTER I WITH INVERTED BREVE",
    "20b LATIN |SMALL LETTER I WITH INVERTED BREVE|CAPITAL LETTER O WITH DOUBLE GRAVE",
    "20d LATIN |SMALL LETTER O WITH DOUBLE GRAVE|CAPITAL LETTER O WITH INVERTED BREVE",
    "20f LATIN |SMALL LETTER O WITH INVERTED BREVE|CAPITAL LETTER R WITH DOUBLE GRAVE",
    "211 LATIN |SMALL LETTER R WITH DOUBLE GRAVE|CAPITAL LETTER R WITH INVERTED BREVE",
    "213 LATIN |SMALL LETTER R WITH INVERTED BREVE|CAPITAL LETTER U WITH DOUBLE GRAVE",
    "215 LATIN |SMALL LETTER U WITH DOUBLE GRAVE|CAPITAL LETTER U WITH INVERTED BREVE",
    "217 LATIN |SMALL LETTER U WITH INVERTED BREVE|CAPITAL LETTER S WITH COMMA BELOW",
    "219 LATIN |SMALL LETTER S WITH COMMA BELOW|CAPITAL LETTER T WITH COMMA BELOW",
    "21b LATIN |SMALL LETTER T WITH COMMA BELOW|CAPITAL LETTER YOGH",
    "21d LATIN |SMALL LETTER YOGH|CAPITAL LETTER H WITH CARON|SMALL LETTER H WITH CARON",
    "220 LATIN |CAPITAL LETTER N WITH LONG RIGHT LEG|SMALL LETTER D WITH CURL",
    "222 LATIN |CAPITAL LETTER OU|SMALL LETTER OU|CAPITAL LETTER Z WITH HOOK",
    "225 LATIN |SMALL LETTER Z WITH HOOK|CAPITAL LETTER A WITH DOT ABOVE",
    "227 LATIN |SMALL LETTER A WITH DOT ABOVE|CAPITAL LETTER E WITH CEDILLA",
    "229 LATIN |SMALL LETTER E WITH CEDILLA|CAPITAL LETTER O WITH DIAERESIS AND MACRON",
    "22b LATIN |SMALL LETTER O WITH DIAERESIS AND MACRON|CAPITAL LETTER O WITH TILDE AND MACRON",
    "22d LATIN |SMALL LETTER O WITH TILDE AND MACRON|CAPITAL LETTER O WITH DOT ABOVE",
    "22f LATIN |SMALL LETTER O WITH DOT ABOVE|CAPITAL LETTER O WITH DOT ABOVE AND MACRON",
    "231 LATIN |SMALL LETTER O WITH DOT ABOVE AND MACRON|CAPITAL LETTER Y WITH MACRON",
    "233 LATIN SMALL LETTER |Y WITH MACRON|L WITH CURL",
    "235 LATIN SMALL LETTER |N WITH CURL|T WITH CURL|DOTLESS J|DB DIGRAPH|QP DIGRAPH",
    "23a LATIN CAPITAL LETTER |A WITH STROKE|C WITH STROKE",
    "23c |LATIN SMALL LETTER C WITH STROKE",
    "23d LATIN CAPITAL LETTER |L WITH BAR|T WITH DIAGONAL STROKE",
    "23f LATIN SMALL LETTER |S WITH SWASH TAIL|Z WITH SWASH TAIL",
    "241 LATIN |CAPITAL LETTER GLOTTAL STOP|SMALL LETTER GLOTTAL STOP",
    "243 LATIN CAPITAL LETTER |B WITH STROKE|U BAR|TURNED V|E WITH STROKE",
    "247 LATIN |SMALL LETTER E WITH STROKE|CAPITAL LETTER J WITH STROKE",
    "249 LATIN |SMALL LETTER J WITH STROKE|CAPITAL LETTER SMALL Q WITH HOOK TAIL",
    "24b LATIN |SMALL LETTER Q WITH HOOK TAIL|CAPITAL LETTER R WITH STROKE",
    "24d LATIN |SMALL LETTER R WITH STROKE|CAPITAL LETTER Y WITH STROKE",
    "24f LATIN SMALL LETTER |Y WITH STROKE|TURNED A|ALPHA|TURNED ALPHA|B WITH HOOK",
    "254 LATIN SMALL LETTER |OPEN O|C WITH CURL|D WITH TAIL|D WITH HOOK|REVERSED E|SCHWA",
    "25a LATIN SMALL LETTER |SCHWA WITH HOOK|OPEN E|REVERSED OPEN E|REVERSED OPEN E WITH HOOK",
    "25e LATIN SMALL LETTER |CLOSED REVERSED OPEN E|DOTLESS J WITH STROKE|G WITH HOOK|SCRIPT G",
    "262 |LATIN LETTER SMALL CAPITAL G",
    "263 LATIN SMALL LETTER |GAMMA|RAMS HORN|TURNED H|H WITH HOOK|HENG WITH HOOK|I WITH STROKE",
    "269 LATIN |SMALL LETTER IOTA|LETTER SMALL CAPITAL I",
    "26b LATIN SMALL LETTER L WITH |MIDDLE TILDE|BELT|RETROFLEX HOOK",
    "26e LATIN SMALL LETTER |LEZH|TURNED M|TURNED M WITH LONG LEG|M WITH HOOK|N WITH LEFT HOOK",
    "273 LATIN |SMALL LETTER N WITH RETROFLEX HOOK|LETTER SMALL CAPITAL N|SMALL LETTER BARRED O",
    "276 LATIN |LETTER SMALL CAPITAL OE|SMALL LETTER CLOSED OMEGA|SMALL LETTER PHI",
    "279 LATIN SMALL LETTER |TURNED R|TURNED R WITH LONG LEG|TURNED R WITH HOOK|R WITH LONG LEG",
    "27d LATIN SMALL LETTER |R WITH TAIL|R WITH FISHHOOK|REVERSED R WITH FISHHOOK",
    "280 LATIN LETTER SMALL CAPITAL |R|INVERTED R",
    "282 LATIN SMALL LETTER |S WITH HOOK|ESH|DOTLESS J WITH STROKE AND HOOK",
    "285 LATIN SMALL LETTER |SQUAT REVERSED ESH|ESH WITH CURL|TURNED T|T WITH RETROFLEX HOOK",
    "289 LATIN SMALL LETTER |U BAR|UPSILON|V WITH HOOK|TURNED V|TURNED W|TURNED Y",
    "28f |LATIN LETTER SMALL CAPITAL Y",
    "290 LATIN SMALL LETTER |Z WITH RETROFLEX HOOK|Z WITH CURL|EZH|EZH WITH CURL",
    "294 LATIN LETTER |GLOTTAL STOP|PHARYNGEAL VOICED FRICATIVE",
    "296 LATIN LETTER |INVERTED GLOTTAL STOP|STRETCHED C|BILABIAL CLICK|SMALL CAPITAL B",
    "29a |LATIN SMALL LETTER CLOSED OPEN E",
    "29b LATIN LETTER SMALL CAPITAL |G WITH HOOK|H",
    "29d LATIN SMALL LETTER |J WITH CROSSED-TAIL|TURNED K",
    "29f LATIN |LETTER SMALL CAPITAL L|SMALL LETTER Q WITH HOOK",
    "2a1 LATIN LETTER |GLOTTAL STOP WITH STROKE|REVERSED GLOTTAL STOP WITH STROKE",
    "2a3 LATIN SMALL LETTER |DZ DIGRAPH|DEZH DIGRAPH|DZ DIGRAPH WITH CURL|TS DIGRAPH",
    "2a7 LATIN SMALL LETTER |TESH DIGRAPH|TC DIGRAPH WITH CURL|FENG DIGRAPH|LS DIGRAPH",
    "2ab LATIN |SMALL LETTER LZ DIGRAPH|LETTER BILABIAL PERCUSSIVE|LETTER BIDENTAL PERCUSSIVE",
    "2ae LATIN SMALL LETTER TURNED H WITH |FISHHOOK|FISHHOOK AND TAIL",
    "2b0 MODIFIER LETTER SMALL |H|H WITH HOOK|J|R|TURNED R|TURNED R WITH HOOK",
    "2b6 MODIFIER LETTER |SMALL CAPITAL INVERTED R|SMALL W|SMALL Y|PRIME",
    "2ba MODIFIER LETTER |DOUBLE PRIME|TURNED COMMA|APOSTROPHE|REVERSED COMMA|RIGHT HALF RING",
    "2bf MODIFIER LETTER |LEFT HALF RING|GLOTTAL STOP|REVERSED GLOTTAL STOP|LEFT ARROWHEAD",
    "2c3 MODIFIER LETTER |RIGHT ARROWHEAD|UP ARROWHEAD|DOWN ARROWHEAD|CIRCUMFLEX ACCENT",
    "2c7 |CARON",
    "2c8 MODIFIER LETTER |VERTICAL LINE|MACRON|ACUTE ACCENT|GRAVE ACCENT",
    "2cc MODIFIER LETTER LOW |VERTICAL LINE|MACRON|GRAVE ACCENT|ACUTE ACCENT",
    "2d0 MODIFIER LETTER |TRIANGULAR COLON|HALF TRIANGULAR COLON|CENTRED RIGHT HALF RING",
    "2d3 MODIFIER LETTER |CENTRED LEFT HALF RING|UP TACK|DOWN TACK|PLUS SIGN|MINUS SIGN",
    "2d8 |BREVE|DOT ABOVE|RING ABOVE|OGONEK|SMALL TILDE|DOUBLE ACUTE ACCENT",
    "2de MODIFIER LETTER |RHOTIC HOOK|CROSS ACCENT|SMALL GAMMA|SMALL L|SMALL S",
    "2e3 MODIFIER LETTER |SMALL X|SMALL REVERSED GLOTTAL STOP|EXTRA-HIGH TONE BAR|HIGH TONE BAR",
    "2e7 MODIFIER LETTER |MID TONE BAR|LOW TONE BAR|EXTRA-LOW TONE BAR|YIN DEPARTING TONE MARK",
    "2eb MODIFIER LETTER |YANG DEPARTING TONE MARK|VOICING|UNASPIRATED|DOUBLE APOSTROPHE",
    "2ef MODIFIER LETTER LOW |DOWN ARROWHEAD|UP ARROWHEAD|LEFT ARROWHEAD|RIGHT ARROWHEAD|RING",
    "2f4 MODIFIER LETTER MIDDLE |GRAVE ACCENT|DOUBLE GRAVE ACCENT|DOUBLE ACUTE ACCENT",
    "2f7 MODIFIER LETTER |LOW TILDE|RAISED COLON|BEGIN HIGH TONE|END HIGH TONE",
    "2fb MODIFIER LETTER |BEGIN LOW TONE|END LOW TONE|SHELF|OPEN SHELF|LOW LEFT ARROW",
    "300 COMBINING |GRAVE ACCENT|ACUTE ACCENT|CIRCUMFLEX ACCENT",
    "303 COMBINING |TILDE|MACRON|OVERLINE|BREVE|DOT ABOVE|DIAERESIS|HOOK ABOVE|RING ABOVE",
    "30b COMBINING |DOUBLE ACUTE ACCENT|CARON|VERTICAL LINE ABOVE|DOUBLE VERTICAL LINE ABOVE",
    "30f COMBINING |DOUBLE GRAVE ACCENT|CANDRABINDU|INVERTED BREVE|TURNED COMMA ABOVE",
    "313 COMBINING |COMMA ABOVE|REVERSED COMMA ABOVE|COMMA ABOVE RIGHT|GRAVE ACCENT BELOW",
    "317 COMBINING |ACUTE ACCENT BELOW|LEFT TACK BELOW|RIGHT TACK BELOW|LEFT ANGLE ABOVE",
    "31b COMBINING |HORN|LEFT HALF RING BELOW|UP TACK BELOW|DOWN TACK BELOW|PLUS SIGN BELOW",
    "320 COMBINING |MINUS SIGN BELOW|PALATALIZED HOOK BELOW|RETROFLEX HOOK BELOW",
    "323 COMBINING |DOT BELOW|DIAERESIS BELOW|RING BELOW|COMMA BELOW|CEDILLA|OGONEK",
    "329 COMBINING |VERTICAL LINE BELOW|BRIDGE BELOW|INVERTED DOUBLE ARCH BELOW|CARON BELOW",
    "32d COMBINING |CIRCUMFLEX ACCENT BELOW|BREVE BELOW|INVERTED BREVE BELOW|TILDE BELOW",
    "331 COMBINING |MACRON BELOW|LOW LINE|DOUBLE LOW LINE|TILDE OVERLAY|SHORT STROKE OVERLAY",
    "336 COMBINING |LONG STROKE OVERLAY|SHORT SOLIDUS OVERLAY|LONG SOLIDUS OVERLAY",
    "339 COMBINING |RIGHT HALF RING BELOW|INVERTED BRIDGE BELOW|SQUARE BELOW|SEAGULL BELOW",
    "33d COMBINING |X ABOVE|VERTICAL TILDE|DOUBLE OVERLINE|GRAVE TONE MARK|ACUTE TONE MARK",
    "342 COMBINING GREEK |PERISPOMENI|KORONIS|DIALYTIKA TONOS|YPOGEGRAMMENI",
    "346 COMBINING |BRIDGE ABOVE|EQUALS SIGN BELOW",
    "348 COMBINING |DOUBLE VERTICAL LINE BELOW|LEFT ANGLE BELOW|NOT TILDE ABOVE",
    "34b COMBINING |HOMOTHETIC ABOVE|ALMOST EQUAL TO ABOVE|LEFT RIGHT ARROW BELOW",
    "34e COMBINING |UPWARDS ARROW BELOW|GRAPHEME JOINER|RIGHT ARROWHEAD ABOVE",
    "351 COMBINING |LEFT HALF RING ABOVE|FERMATA|X BELOW|LEFT ARROWHEAD BELOW",
    "355 COMBINING RIGHT |ARROWHEAD BELOW|ARROWHEAD AND UP ARROWHEAD BELOW|HALF RING ABOVE",
    "358 COMBINING |DOT ABOVE RIGHT|ASTERISK BELOW|DOUBLE RING BELOW|ZIGZAG ABOVE",
    "35c COMBINING DOUBLE |BREVE BELOW|BREVE",
    "35e COMBINING DOUBLE |MACRON|MACRON BELOW|TILDE|INVERTED BREVE|RIGHTWARDS ARROW BELOW",
    "363 COMBINING LATIN SMALL LETTER |A|E|I|O|U|C|D|H|M|R|T|V|X",
    "370 GREEK |CAPITAL LETTER HETA|SMALL LETTER HETA|CAPITAL LETTER ARCHAIC SAMPI",
    "373 GREEK |SMALL LETTER ARCHAIC SAMPI|NUMERAL SIGN|LOWER NUMERAL SIGN",
    "376 GREEK |CAPITAL LETTER PAMPHYLIAN DIGAMMA|SMALL LETTER PAMPHYLIAN DIGAMMA",
    "37a |GREEK YPOGEGRAMMENI",
    "37b GREEK SMALL |REVERSED LUNATE SIGMA SYMBOL|DOTTED LUNATE SIGMA SYMBOL",
    "37d GREEK |SMALL REVERSED DOTTED LUNATE SIGMA SYMBOL|QUESTION MARK|CAPITAL LETTER YOT",
    "384 GREEK |TONOS|DIALYTIKA TONOS|CAPITAL LETTER ALPHA WITH TONOS|ANO TELEIA",
    "388 GREEK CAPITAL LETTER |EPSILON WITH TONOS|ETA WITH TONOS|IOTA WITH TONOS",
    "38c |GREEK CAPITAL LETTER OMICRON WITH TONOS",
    "38e GREEK CAPITAL LETTER |UPSILON WITH TONOS|OMEGA WITH TONOS",
    "390 |GREEK SMALL LETTER IOTA WITH DIALYTIKA AND TONOS",
    "391 GREEK CAPITAL LETTER |ALPHA|BETA|GAMMA|DELTA",
    "395 GREEK CAPITAL LETTER |EPSILON|ZETA|ETA|THETA|IOTA|KAPPA|LAMDA|MU|NU|XI|OMICRON|PI|RHO",
    "3a3 GREEK CAPITAL LETTER |SIGMA|TAU|UPSILON",
    "3a6 GREEK CAPITAL LETTER |PHI|CHI|PSI|OMEGA|IOTA WITH DIALYTIKA|UPSILON WITH DIALYTIKA",
    "3ac GREEK SMALL LETTER |ALPHA WITH TONOS|EPSILON WITH TONOS",
    "3ae GREEK SMALL LETTER |ETA WITH TONOS|IOTA WITH TONOS|UPSILON WITH DIALYTIKA AND TONOS",
    "3b1 GREEK SMALL LETTER |ALPHA|BETA|GAMMA|DELTA|EPSILON|ZETA|ETA|THETA|IOTA",
    "3ba GREEK SMALL LETTER |KAPPA|LAMDA|MU|NU|XI|OMICRON|PI|RHO|FINAL SIGMA|SIGMA|TAU|UPSILON",
    "3c6 GREEK SMALL LETTER |PHI|CHI|PSI|OMEGA|IOTA WITH DIALYTIKA|UPSILON WITH DIALYTIKA",
    "3cc GREEK SMALL LETTER |OMICRON WITH TONOS|UPSILON WITH TONOS|OMEGA WITH TONOS",
    "3cf GREEK |CAPITAL KAI SYMBOL|BETA SYMBOL|THETA SYMBOL",
    "3d2 GREEK UPSILON WITH |HOOK SYMBOL|ACUTE AND HOOK SYMBOL|DIAERESIS AND HOOK SYMBOL",
    "3d5 GREEK |PHI SYMBOL|PI SYMBOL|KAI SYMBOL|LETTER ARCHAIC KOPPA|SMALL LETTER ARCHAIC KOPPA",
    "3da GREEK |LETTER STIGMA|SMALL LETTER STIGMA|LETTER DIGAMMA|SMALL LETTER DIGAMMA",
    "3de GREEK |LETTER KOPPA|SMALL LETTER KOPPA|LETTER SAMPI|SMALL LETTER SAMPI",
    "3e2 COPTIC |CAPITAL LETTER SHEI|SMALL LETTER SHEI|CAPITAL LETTER FEI",
    "3e5 COPTIC |SMALL LETTER FEI|CAPITAL LETTER KHEI|SMALL LETTER KHEI|CAPITAL LETTER HORI",
    "3e9 COPTIC |SMALL LETTER HORI|CAPITAL LETTER GANGIA|SMALL LETTER GANGIA",
    "3ec COPTIC |CAPITAL LETTER SHIMA|SMALL LETTER SHIMA|CAPITAL LETTER DEI|SMALL LETTER DEI",
    "3f0 GREEK |KAPPA SYMBOL|RHO SYMBOL|LUNATE SIGMA SYMBOL|LETTER YOT|CAPITAL THETA SYMBOL",
    "3f5 GREEK |LUNATE EPSILON SYMBOL|REVERSED LUNATE EPSILON SYMBOL|CAPITAL LETTER SHO",
    "3f8 GREEK |SMALL LETTER SHO|CAPITAL LUNATE SIGMA SYMBOL|CAPITAL LETTER SAN",
    "3fb GREEK |SMALL LETTER SAN|RHO WITH STROKE SYMBOL|CAPITAL REVERSED LUNATE SIGMA SYMBOL",
    "3fe GREEK CAPITAL |DOTTED LUNATE SIGMA SYMBOL|REVERSED DOTTED LUNATE SIGMA SYMBOL",
    "400 |CYRILLIC CAPITAL LETTER IE WITH GRAVE",
    "401 CYRILLIC CAPITAL LETTER |IO|DJE|GJE|UKRAINIAN IE|DZE|BYELORUSSIAN-UKRAINIAN I",
    "407 CYRILLIC CAPITAL LETTER |YI|JE|LJE|NJE|TSHE|KJE|I WITH GRAVE|SHORT U|DZHE",
    "410 CYRILLIC CAPITAL LETTER |A|BE|VE|GHE|DE|IE|ZHE|ZE|I|SHORT I|KA|EL|EM|EN|O|PE|ER|ES",
    "422 CYRILLIC CAPITAL LETTER |TE|U|EF|HA|TSE|CHE|SHA|SHCHA|HARD SIGN|YERU|SOFT SIGN|E|YU|YA",
    "430 CYRILLIC SMALL LETTER |A|BE|VE|GHE",
    "434 CYRILLIC SMALL LETTER |DE|IE|ZHE|ZE|I|SHORT I|KA|EL|EM|EN|O|PE|ER|ES|TE|U|EF|HA|TSE",
    "447 CYRILLIC SMALL LETTER |CHE|SHA|SHCHA|HARD SIGN|YERU|SOFT SIGN|E|YU|YA|IE WITH GRAVE",
    "451 CYRILLIC SMALL LETTER |IO|DJE|GJE|UKRAINIAN IE|DZE|BYELORUSSIAN-UKRAINIAN I",
    "457 CYRILLIC SMALL LETTER |YI|JE|LJE|NJE|TSHE|KJE|I WITH GRAVE|SHORT U|DZHE",
    "460 CYRILLIC |CAPITAL LETTER OMEGA|SMALL LETTER OMEGA|CAPITAL LETTER YAT|SMALL LETTER YAT",
    "464 CYRILLIC |CAPITAL LETTER IOTIFIED E|SMALL LETTER IOTIFIED E|CAPITAL LETTER LITTLE YUS",
    "467 CYRILLIC |SMALL LETTER LITTLE YUS|CAPITAL LETTER IOTIFIED LITTLE YUS",
    "469 CYRILLIC |SMALL LETTER IOTIFIED LITTLE YUS|CAPITAL LETTER BIG YUS|SMALL LETTER BIG YUS",
    "46c CYRILLIC |CAPITAL LETTER IOTIFIED BIG YUS|SMALL LETTER IOTIFIED BIG YUS",
    "46e CYRILLIC |CAPITAL LETTER KSI|SMALL LETTER KSI|CAPITAL LETTER PSI|SMALL LETTER PSI",
    "472 CYRILLIC |CAPITAL LETTER FITA|SMALL LETTER FITA|CAPITAL LETTER IZHITSA",
    "475 CYRILLIC |SMALL LETTER IZHITSA|CAPITAL LETTER IZHITSA WITH DOUBLE GRAVE ACCENT",
    "477 |CYRILLIC SMALL LETTER IZHITSA WITH DOUBLE GRAVE ACCENT",
    "478 CYRILLIC |CAPITAL LETTER UK|SMALL LETTER UK|CAPITAL LETTER ROUND OMEGA",
    "47b CYRILLIC |SMALL LETTER ROUND OMEGA|CAPITAL LETTER OMEGA WITH TITLO",
    "47d CYRILLIC |SMALL LETTER OMEGA WITH TITLO|CAPITAL LETTER OT",
    "47f CYRILLIC |SMALL LETTER OT|CAPITAL LETTER KOPPA|SMALL LETTER KOPPA|THOUSANDS SIGN",
    "483 COMBINING CYRILLIC |TITLO|PALATALIZATION|DASIA PNEUMATA",
    "486 COMBINING CYRILLIC |PSILI PNEUMATA|POKRYTIE|HUNDRED THOUSANDS SIGN|MILLIONS SIGN",
    "48a |CYRILLIC CAPITAL LETTER SHORT I WITH TAIL",
    "48b CYRILLIC |SMALL LETTER SHORT I WITH TAIL|CAPITAL LETTER SEMISOFT SIGN",
    "48d CYRILLIC |SMALL LETTER SEMISOFT SIGN|CAPITAL LETTER ER WITH TICK",
    "48f CYRILLIC |SMALL LETTER ER WITH TICK|CAPITAL LETTER GHE WITH UPTURN",
    "491 CYRILLIC |SMALL LETTER GHE WITH UPTURN|CAPITAL LETTER GHE WITH STROKE",
    "493 CYRILLIC |SMALL LETTER GHE WITH STROKE|CAPITAL LETTER GHE WITH MIDDLE HOOK",
    "495 CYRILLIC |SMALL LETTER GHE WITH MIDDLE HOOK|CAPITAL LETTER ZHE WITH DESCENDER",
    "497 CYRILLIC |SMALL LETTER ZHE WITH DESCENDER|CAPITAL LETTER ZE WITH DESCENDER",
    "499 CYRILLIC |SMALL LETTER ZE WITH DESCENDER|CAPITAL LETTER KA WITH DESCENDER",
    "49b CYRILLIC |SMALL LETTER KA WITH DESCENDER|CAPITAL LETTER KA WITH VERTICAL STROKE",
    "49d CYRILLIC |SMALL LETTER KA WITH VERTICAL STROKE|CAPITAL LETTER KA WITH STROKE",
    "49f CYRILLIC |SMALL LETTER KA WITH STROKE|CAPITAL LETTER BASHKIR KA",
    "4a1 CYRILLIC |SMALL LETTER BASHKIR KA|CAPITAL LETTER EN WITH DESCENDER",
    "4a3 CYRILLIC |SMALL LETTER EN WITH DESCENDER|CAPITAL LIGATURE EN GHE",
    "4a5 CYRILLIC |SMALL LIGATURE EN GHE|CAPITAL LETTER PE WITH MIDDLE HOOK",
    "4a7 CYRILLIC |SMALL LETTER PE WITH MIDDLE HOOK|CAPITAL LETTER ABKHASIAN HA",
    "4a9 CYRILLIC |SMALL LETTER ABKHASIAN HA|CAPITAL LETTER ES WITH DESCENDER",
    "4ab CYRILLIC |SMALL LETTER ES WITH DESCENDER|CAPITAL LETTER TE WITH DESCENDER",
    "4ad CYRILLIC |SMALL LETTER TE WITH DESCENDER|CAPITAL LETTER STRAIGHT U",
    "4af CYRILLIC |SMALL LETTER STRAIGHT U|CAPITAL LETTER STRAIGHT U WITH STROKE",
    "4b1 CYRILLIC |SMALL LETTER STRAIGHT U WITH STROKE|CAPITAL LETTER HA WITH DESCENDER",
    "4b3 CYRILLIC |SMALL LETTER HA WITH DESCENDER|CAPITAL LIGATURE TE TSE",
    "4b5 CYRILLIC |SMALL LIGATURE TE TSE|CAPITAL LETTER CHE WITH DESCENDER",
    "4b7 CYRILLIC |SMALL LETTER CHE WITH DESCENDER|CAPITAL LETTER CHE WITH VERTICAL STROKE",
    "4b9 |CYRILLIC SMALL LETTER CHE WITH VERTICAL STROKE",
    "4ba CYRILLIC |CAPITAL LETTER SHHA|SMALL LETTER SHHA|CAPITAL LETTER ABKHASIAN CHE",
    "4bd CYRILLIC |SMALL LETTER ABKHASIAN CHE|CAPITAL LETTER ABKHASIAN CHE WITH DESCENDER",
    "4bf |CYRILLIC SMALL LETTER ABKHASIAN CHE WITH DESCENDER",
    "4c0 CYRILLIC |LETTER PALOCHKA|CAPITAL LETTER ZHE WITH BREVE",
    "4c2 CYRILLIC |SMALL LETTER ZHE WITH BREVE|CAPITAL LETTER KA WITH HOOK",
    "4c4 CYRILLIC |SMALL LETTER KA WITH HOOK|CAPITAL LETTER EL WITH TAIL",
    "4c6 CYRILLIC |SMALL LETTER EL WITH TAIL|CAPITAL LETTER EN WITH HOOK",
    "4c8 CYRILLIC |SMALL LETTER EN WITH HOOK|CAPITAL LETTER EN WITH TAIL",
    "4ca CYRILLIC |SMALL LETTER EN WITH TAIL|CAPITAL LETTER KHAKASSIAN CHE",
    "4cc CYRILLIC |SMALL LETTER KHAKASSIAN CHE|CAPITAL LETTER EM WITH TAIL",
    "4ce CYRILLIC |SMALL LETTER EM WITH TAIL|SMALL LETTER PALOCHKA|CAPITAL LETTER A WITH BREVE",
    "4d1 CYRILLIC |SMALL LETTER A WITH BREVE|CAPITAL LETTER A WITH DIAERESIS",
    "4d3 CYRILLIC |SMALL LETTER A WITH DIAERESIS|CAPITAL LIGATURE A IE",
    "4d5 CYRILLIC |SMALL LIGATURE A IE|CAPITAL LETTER IE WITH BREVE|SMALL LETTER IE WITH BREVE",
    "4d8 CYRILLIC |CAPITAL LETTER SCHWA|SMALL LETTER SCHWA|CAPITAL LETTER SCHWA WITH DIAERESIS",
    "4db CYRILLIC |SMALL LETTER SCHWA WITH DIAERESIS|CAPITAL LETTER ZHE WITH DIAERESIS",
    "4dd CYRILLIC |SMALL LETTER ZHE WITH DIAERESIS|CAPITAL LETTER ZE WITH DIAERESIS",
    "4df CYRILLIC |SMALL LETTER ZE WITH DIAERESIS|CAPITAL LETTER ABKHASIAN DZE",
    "4e1 CYRILLIC |SMALL LETTER ABKHASIAN DZE|CAPITAL LETTER I WITH MACRON",
    "4e3 CYRILLIC |SMALL LETTER I WITH MACRON|CAPITAL LETTER I WITH DIAERESIS",
    "4e5 CYRILLIC |SMALL LETTER I WITH DIAERESIS|CAPITAL LETTER O WITH DIAERESIS",
    "4e7 CYRILLIC |SMALL LETTER O WITH DIAERESIS|CAPITAL LETTER BARRED O",
    "4e9 CYRILLIC |SMALL LETTER BARRED O|CAPITAL LETTER BARRED O WITH DIAERESIS",
    "4eb CYRILLIC |SMALL LETTER BARRED O WITH DIAERESIS|CAPITAL LETTER E WITH DIAERESIS",
    "4ed CYRILLIC |SMALL LETTER E WITH DIAERESIS|CAPITAL LETTER U WITH MACRON",
    "4ef CYRILLIC |SMALL LETTER U WITH MACRON|CAPITAL LETTER U WITH DIAERESIS",
    "4f1 CYRILLIC |SMALL LETTER U WITH DIAERESIS|CAPITAL LETTER U WITH DOUBLE ACUTE",
    "4f3 CYRILLIC |SMALL LETTER U WITH DOUBLE ACUTE|CAPITAL LETTER CHE WITH DIAERESIS",
    "4f5 CYRILLIC |SMALL LETTER CHE WITH DIAERESIS|CAPITAL LETTER GHE WITH DESCENDER",
    "4f7 CYRILLIC |SMALL LETTER GHE WITH DESCENDER|CAPITAL LETTER YERU WITH DIAERESIS",
    "4f9 CYRILLIC |SMALL LETTER YERU WITH DIAERESIS|CAPITAL LETTER GHE WITH STROKE AND HOOK",
    "4fb |CYRILLIC SMALL LETTER GHE WITH STROKE AND HOOK",
    "4fc CYRILLIC |CAPITAL LETTER HA WITH HOOK|SMALL LETTER HA WITH HOOK",
    "4fe CYRILLIC |CAPITAL LETTER HA WITH STROKE|SMALL LETTER HA WITH STROKE",
    "500 CYRILLIC |CAPITAL LETTER KOMI DE|SMALL LETTER KOMI DE|CAPITAL LETTER KOMI DJE",
    "503 CYRILLIC |SMALL LETTER KOMI DJE|CAPITAL LETTER KOMI ZJE|SMALL LETTER KOMI ZJE",
    "506 CYRILLIC |CAPITAL LETTER KOMI DZJE|SMALL LETTER KOMI DZJE|CAPITAL LETTER KOMI LJE",
    "509 CYRILLIC |SMALL LETTER KOMI LJE|CAPITAL LETTER KOMI NJE|SMALL LETTER KOMI NJE",
    "50c CYRILLIC |CAPITAL LETTER KOMI SJE|SMALL LETTER KOMI SJE|CAPITAL LETTER KOMI TJE",
    "50f CYRILLIC |SMALL LETTER KOMI TJE|CAPITAL LETTER REVERSED ZE|SMALL LETTER REVERSED ZE",
    "512 CYRILLIC |CAPITAL LETTER EL WITH HOOK|SMALL LETTER EL WITH HOOK",
    "514 CYRILLIC |CAPITAL LETTER LHA|SMALL LETTER LHA|CAPITAL LETTER RHA",
    "517 CYRILLIC |SMALL LETTER RHA|CAPITAL LETTER YAE|SMALL LETTER YAE|CAPITAL LETTER QA",
    "51b CYRILLIC |SMALL LETTER QA|CAPITAL LETTER WE|SMALL LETTER WE|CAPITAL LETTER ALEUT KA",
    "51f CYRILLIC |SMALL LETTER ALEUT KA|CAPITAL LETTER EL WITH MIDDLE HOOK",
    "521 CYRILLIC |SMALL LETTER EL WITH MIDDLE HOOK|CAPITAL LETTER EN WITH MIDDLE HOOK",
    "523 CYRILLIC |SMALL LETTER EN WITH MIDDLE HOOK|CAPITAL LETTER PE WITH DESCENDER",
    "525 CYRILLIC |SMALL LETTER PE WITH DESCENDER|CAPITAL LETTER SHHA WITH DESCENDER",
    "527 CYRILLIC |SMALL LETTER SHHA WITH DESCENDER|CAPITAL LETTER EN WITH LEFT HOOK",
    "529 CYRILLIC |SMALL LETTER EN WITH LEFT HOOK|CAPITAL LETTER DZZHE",
    "52b CYRILLIC |SMALL LETTER DZZHE|CAPITAL LETTER DCHE|SMALL LETTER DCHE",
    "52e CYRILLIC |CAPITAL LETTER EL WITH DESCENDER|SMALL LETTER EL WITH DESCENDER",
    "531 ARMENIAN CAPITAL LETTER |AYB|BEN|GIM|DA|ECH|ZA|EH",
    "538 ARMENIAN CAPITAL LETTER |ET|TO|ZHE|INI|LIWN|XEH|CA|KEN|HO|JA|GHAD|CHEH|MEN|YI|NOW|SHA",
    "548 ARMENIAN CAPITAL LETTER |VO|CHA|PEH|JHEH|RA|SEH|VEW|TIWN|REH|CO|YIWN|PIWR|KEH|OH|FEH",
    "559 ARMENIAN |MODIFIER LETTER LEFT HALF RING|APOSTROPHE",
    "55b ARMENIAN |EMPHASIS MARK|EXCLAMATION MARK|COMMA|QUESTION MARK|ABBREVIATION MARK",
    "560 ARMENIAN SMALL LETTER |TURNED AYB|AYB|BEN|GIM|DA|ECH",
    "566 ARMENIAN SMALL LETTER |ZA|EH|ET|TO|ZHE|INI|LIWN|XEH|CA|KEN|HO|JA|GHAD|CHEH|MEN|YI|NOW",
    "577 ARMENIAN SMALL LETTER |SHA|VO|CHA|PEH|JHEH|RA|SEH|VEW|TIWN|REH|CO|YIWN|PIWR|KEH|OH|FEH",
    "587 ARMENIAN |SMALL LIGATURE ECH YIWN|SMALL LETTER YI WITH STROKE|FULL STOP|HYPHEN",
    "58d |RIGHT-FACING ARMENIAN ETERNITY SIGN",
    "58e |LEFT-FACING ARMENIAN ETERNITY SIGN|ARMENIAN DRAM SIGN",
    "591 HEBREW ACCENT |ETNAHTA|SEGOL|SHALSHELET|ZAQEF QATAN|ZAQEF GADOL|TIPEHA|REVIA",
    "598 HEBREW ACCENT |ZARQA|PASHTA|YETIV|TEVIR|GERESH|GERESH MUQDAM|GERSHAYIM|QARNEY PARA",
    "5a0 HEBREW ACCENT |TELISHA GEDOLA|PAZER|ATNAH HAFUKH|MUNAH|MAHAPAKH|MERKHA|MERKHA KEFULA",
    "5a7 HEBREW ACCENT |DARGA|QADMA|TELISHA QETANA|YERAH BEN YOMO|OLE|ILUY|DEHI|ZINOR",
    "5af |HEBREW MARK MASORA CIRCLE",
    "5b0 HEBREW POINT |SHEVA|HATAF SEGOL|HATAF PATAH|HATAF QAMATS|HIRIQ|TSERE|SEGOL",
    "5b7 HEBREW POINT |PATAH|QAMATS|HOLAM|HOLAM HASER FOR VAV|QUBUTS|DAGESH OR MAPIQ|METEG",
    "5be HEBREW |PUNCTUATION MAQAF|POINT RAFE",
    "5c0 HEBREW |PUNCTUATION PASEQ|POINT SHIN DOT|POINT SIN DOT|PUNCTUATION SOF PASUQ",
    "5c4 HEBREW |MARK UPPER DOT|MARK LOWER DOT|PUNCTUATION NUN HAFUKHA|POINT QAMATS QATAN",
    "5d0 HEBREW LETTER |ALEF|BET|GIMEL|DALET",
    "5d4 HEBREW LETTER |HE|VAV|ZAYIN|HET|TET|YOD|FINAL KAF|KAF|LAMED|FINAL MEM|MEM|FINAL NUN",
    "5e0 HEBREW LETTER |NUN|SAMEKH|AYIN|FINAL PE|PE|FINAL TSADI|TSADI|QOF|RESH|SHIN|TAV",
    "5ef |HEBREW YOD TRIANGLE",
    "5f0 HEBREW LIGATURE YIDDISH |DOUBLE VAV|VAV YOD|DOUBLE YOD",
    "5f3 HEBREW PUNCTUATION |GERESH|GERSHAYIM",
    "600 ARABIC |NUMBER SIGN|SIGN SANAH|FOOTNOTE MARKER|SIGN SAFHA|SIGN SAMVAT",
    "605 |ARABIC NUMBER MARK ABOVE|ARABIC-INDIC CUBE ROOT|ARABIC-INDIC FOURTH ROOT|ARABIC RAY",
    "609 ARABIC-INDIC PER |MILLE SIGN|TEN THOUSAND SIGN",
    "60b |AFGHANI SIGN|ARABIC COMMA",
    "60d ARABIC |DATE SEPARATOR|POETIC VERSE SIGN|SIGN MISRA|SIGN SALLALLAHOU ALAYHE WASSALLAM",
    "611 ARABIC SIGN |ALAYHE ASSALLAM|RAHMATULLAH ALAYHE|RADI ALLAHOU ANHU|TAKHALLUS",
    "615 ARABIC SMALL |HIGH TAH|HIGH LIGATURE ALEF WITH LAM WITH YEH|HIGH ZAIN|FATHA|DAMMA",
    "61a ARABIC |SMALL KASRA|SEMICOLON|LETTER MARK",
    "61d ARABIC |END OF TEXT MARK|TRIPLE DOT PUNCTUATION MARK|QUESTION MARK|LETTER KASHMIRI YEH",
    "621 ARABIC LETTER |HAMZA|ALEF WITH MADDA ABOVE|ALEF WITH HAMZA ABOVE|WAW WITH HAMZA ABOVE",
    "625 ARABIC LETTER |ALEF WITH HAMZA BELOW|YEH WITH HAMZA ABOVE|ALEF|BEH",
    "629 ARABIC LETTER |TEH MARBUTA|TEH|THEH|JEEM|HAH|KHAH|DAL|THAL|REH|ZAIN|SEEN|SHEEN|SAD|DAD",
    "637 ARABIC LETTER |TAH|ZAH|AIN|GHAIN|KEHEH WITH TWO DOTS ABOVE|KEHEH WITH THREE DOTS BELOW",
    "63d ARABIC LETTER FARSI YEH WITH |INVERTED V|TWO DOTS ABOVE|THREE DOTS ABOVE",
    "640 |ARABIC TATWEEL",
    "641 ARABIC LETTER |FEH|QAF|KAF|LAM|MEEM|NOON|HEH|WAW|ALEF MAKSURA|YEH",
    "64b ARABIC |FATHATAN|DAMMATAN|KASRATAN|FATHA|DAMMA|KASRA|SHADDA|SUKUN|MADDAH ABOVE",
    "654 ARABIC HAMZA |ABOVE|BELOW",
    "656 ARABIC |SUBSCRIPT ALEF|INVERTED DAMMA|MARK NOON GHUNNA|ZWARAKAY",
    "65a ARABIC VOWEL SIGN |SMALL V ABOVE|INVERTED SMALL V ABOVE|DOT BELOW",
    "65d ARABIC |REVERSED DAMMA|FATHA WITH TWO DOTS|WAVY HAMZA BELOW",
    "660 ARABIC-INDIC DIGIT |ZERO|ONE|TWO|THREE|FOUR|FIVE|SIX|SEVEN|EIGHT|NINE",
    "66a ARABIC |PERCENT SIGN|DECIMAL SEPARATOR|THOUSANDS SEPARATOR|FIVE POINTED STAR",
    "66e ARABIC LETTER |DOTLESS BEH|DOTLESS QAF|SUPERSCRIPT ALEF|ALEF WASLA",
    "672 ARABIC LETTER ALEF WITH WAVY HAMZA |ABOVE|BELOW",
    "674 ARABIC LETTER HIGH |HAMZA|HAMZA ALEF|HAMZA WAW",
    "677 ARABIC LETTER |U WITH HAMZA ABOVE|HIGH HAMZA YEH|TTEH|TTEHEH|BEEH",
    "67c ARABIC LETTER TEH WITH |RING|THREE DOTS ABOVE DOWNWARDS",
    "67e ARABIC LETTER |PEH|TEHEH|BEHEH|HAH WITH HAMZA ABOVE|HAH WITH TWO DOTS VERTICAL ABOVE",
    "683 ARABIC LETTER |NYEH|DYEH|HAH WITH THREE DOTS ABOVE|TCHEH|TCHEHEH|DDAL",
    "689 ARABIC LETTER DAL WITH |RING|DOT BELOW|DOT BELOW AND SMALL TAH",
    "68c ARABIC LETTER |DAHAL|DDAHAL|DUL|DAL WITH THREE DOTS ABOVE DOWNWARDS",
    "690 ARABIC LETTER |DAL WITH FOUR DOTS ABOVE|RREH|REH WITH SMALL V|REH WITH RING",
    "694 ARABIC LETTER REH WITH |DOT BELOW|SMALL V BELOW|DOT BELOW AND DOT ABOVE|TWO DOTS ABOVE",
    "698 ARABIC LETTER |JEH|REH WITH FOUR DOTS ABOVE|SEEN WITH DOT BELOW AND DOT ABOVE",
    "69b ARABIC LETTER SEEN WITH THREE DOTS |BELOW|BELOW AND THREE DOTS ABOVE",
    "69d ARABIC LETTER SAD WITH |TWO DOTS BELOW|THREE DOTS ABOVE",
    "69f ARABIC LETTER |TAH WITH THREE DOTS ABOVE|AIN WITH THREE DOTS ABOVE|DOTLESS FEH",
    "6a2 ARABIC LETTER FEH WITH DOT |MOVED BELOW|BELOW",
    "6a4 ARABIC LETTER |VEH|FEH WITH THREE DOTS BELOW|PEHEH|QAF WITH DOT ABOVE",
    "6a8 ARABIC LETTER |QAF WITH THREE DOTS ABOVE|KEHEH|SWASH KAF|KAF WITH RING",
    "6ac ARABIC LETTER |KAF WITH DOT ABOVE|NG|KAF WITH THREE DOTS BELOW|GAF|GAF WITH RING",
    "6b1 ARABIC LETTER |NGOEH|GAF WITH TWO DOTS BELOW|GUEH|GAF WITH THREE DOTS ABOVE",
    "6b5 ARABIC LETTER LAM WITH |SMALL V|DOT ABOVE|THREE DOTS ABOVE|THREE DOTS BELOW",
    "6b9 ARABIC LETTER |NOON WITH DOT BELOW|NOON GHUNNA|RNOON|NOON WITH RING",
    "6bd ARABIC LETTER |NOON WITH THREE DOTS ABOVE|HEH DOACHASHMEE|TCHEH WITH DOT ABOVE",
    "6c0 ARABIC LETTER |HEH WITH YEH ABOVE|HEH GOAL|HEH GOAL WITH HAMZA ABOVE|TEH MARBUTA GOAL",
    "6c4 ARABIC LETTER |WAW WITH RING|KIRGHIZ OE|OE|U|YU|KIRGHIZ YU|WAW WITH TWO DOTS ABOVE",
    "6cb ARABIC LETTER |VE|FARSI YEH|YEH WITH TAIL|YEH WITH SMALL V|WAW WITH DOT ABOVE|E",
    "6d1 ARABIC LETTER YEH |WITH THREE DOTS BELOW|BARREE|BARREE WITH HAMZA ABOVE",
    "6d4 ARABIC |FULL STOP|LETTER AE|SMALL HIGH LIGATURE SAD WITH LAM WITH ALEF MAKSURA",
    "6d7 |ARABIC SMALL HIGH LIGATURE QAF WITH LAM WITH ALEF MAKSURA",
    "6d8 ARABIC SMALL HIGH |MEEM INITIAL FORM|LAM ALEF|JEEM|THREE DOTS|SEEN",
    "6dd ARABIC |END OF AYAH|START OF RUB EL HIZB",
    "6df ARABIC SMALL HIGH |ROUNDED ZERO|UPRIGHT RECTANGULAR ZERO|DOTLESS HEAD OF KHAH",
    "6e2 ARABIC SMALL |HIGH MEEM ISOLATED FORM|LOW SEEN|HIGH MADDA|WAW|YEH|HIGH YEH|HIGH NOON",
    "6e9 ARABIC |PLACE OF SAJDAH|EMPTY CENTRE LOW STOP",
    "6eb ARABIC |EMPTY CENTRE HIGH STOP|ROUNDED HIGH STOP WITH FILLED CENTRE|SMALL LOW MEEM",
    "6ee ARABIC LETTER |DAL WITH INVERTED V|REH WITH INVERTED V",
    "6f0 EXTENDED ARABIC-INDIC DIGIT |ZERO|ONE|TWO|THREE|FOUR|FIVE|SIX|SEVEN|EIGHT|NINE",
    "6fa ARABIC LETTER |SHEEN WITH DOT BELOW|DAD WITH DOT BELOW|GHAIN WITH DOT BELOW",
    "6fd ARABIC |SIGN SINDHI AMPERSAND|SIGN SINDHI POSTPOSITION MEN|LETTER HEH WITH INVERTED V",
    "700 SYRIAC |END OF PARAGRAPH|SUPRALINEAR FULL STOP|SUBLINEAR FULL STOP|SUPRALINEAR COLON",
    "704 SYRIAC |SUBLINEAR COLON|HORIZONTAL COLON|COLON SKEWED LEFT|COLON SKEWED RIGHT",
    "708 SYRIAC |SUPRALINEAR COLON SKEWED LEFT|SUBLINEAR COLON SKEWED RIGHT|CONTRACTION",
    "70b SYRIAC HARKLEAN |OBELUS|METOBELUS|ASTERISCUS",
    "70f SYRIAC |ABBREVIATION MARK|LETTER ALAPH",
    "711 SYRIAC LETTER |SUPERSCRIPT ALAPH|BETH|GAMAL|GAMAL GARSHUNI|DALATH|DOTLESS DALATH RISH",
    "717 SYRIAC LETTER |HE|WAW|ZAIN|HETH|TETH|TETH GARSHUNI|YUDH|YUDH HE|KAPH|LAMADH",
    "721 SYRIAC LETTER |MIM|NUN|SEMKATH|FINAL SEMKATH|E|PE|REVERSED PE|SADHE|QAPH|RISH|SHIN|TAW",
    "72d SYRIAC LETTER PERSIAN |BHETH|GHAMAL|DHALATH",
    "730 SYRIAC PTHAHA |ABOVE|BELOW|DOTTED",
    "733 SYRIAC ZQAPHA |ABOVE|BELOW|DOTTED",
    "736 SYRIAC |RBASA ABOVE|RBASA BELOW|DOTTED ZLAMA HORIZONTAL",
    "739 SYRIAC |DOTTED ZLAMA ANGULAR|HBASA ABOVE|HBASA BELOW|HBASA-ESASA DOTTED",
    "73d SYRIAC |ESASA ABOVE|ESASA BELOW|RWAHA|FEMININE DOT|QUSHSHAYA|RUKKAKHA",
    "743 SYRIAC TWO VERTICAL DOTS |ABOVE|BELOW",
    "745 SYRIAC THREE DOTS |ABOVE|BELOW",
    "747 SYRIAC |OBLIQUE LINE ABOVE|OBLIQUE LINE BELOW|MUSIC|BARREKH",
    "74d SYRIAC LETTER SOGDIAN |ZHAIN|KHAPH|FE",
    "750 ARABIC LETTER BEH WITH |THREE DOTS HORIZONTALLY BELOW|DOT BELOW AND THREE DOTS ABOVE",
    "752 ARABIC LETTER BEH WITH THREE DOTS POINTING UPWARDS |BELOW|BELOW AND TWO DOTS ABOVE",
    "754 ARABIC LETTER BEH WITH |TWO DOTS BELOW AND DOT ABOVE|INVERTED SMALL V BELOW|SMALL V",
    "757 ARABIC LETTER HAH WITH |TWO DOTS ABOVE|THREE DOTS POINTING UPWARDS BELOW",
    "759 ARABIC LETTER DAL WITH |TWO DOTS VERTICALLY BELOW AND SMALL TAH|INVERTED SMALL V BELOW",
    "75b ARABIC LETTER |REH WITH STROKE|SEEN WITH FOUR DOTS ABOVE|AIN WITH TWO DOTS ABOVE",
    "75e ARABIC LETTER AIN WITH |THREE DOTS POINTING DOWNWARDS ABOVE|TWO DOTS VERTICALLY ABOVE",
    "760 ARABIC LETTER FEH WITH |TWO DOTS BELOW|THREE DOTS POINTING UPWARDS BELOW",
    "762 ARABIC LETTER KEHEH WITH |DOT ABOVE|THREE DOTS ABOVE|THREE DOTS POINTING UPWARDS BELOW",
    "765 ARABIC LETTER MEEM WITH DOT |ABOVE|BELOW",
    "767 ARABIC LETTER NOON WITH |TWO DOTS BELOW|SMALL TAH|SMALL V",
    "76a ARABIC LETTER |LAM WITH BAR|REH WITH TWO DOTS VERTICALLY ABOVE",
    "76c ARABIC LETTER |REH WITH HAMZA ABOVE|SEEN WITH TWO DOTS VERTICALLY ABOVE",
    "76e ARABIC LETTER HAH WITH SMALL ARABIC LETTER TAH |BELOW|AND TWO DOTS",
    "770 |ARABIC LETTER SEEN WITH SMALL ARABIC LETTER TAH AND TWO DOTS",
    "771 |ARABIC LETTER REH WITH SMALL ARABIC LETTER TAH AND TWO DOTS",
    "772 |ARABIC LETTER HAH WITH SMALL ARABIC LETTER TAH ABOVE",
    "773 ARABIC LETTER ALEF WITH EXTENDED ARABIC-INDIC DIGIT |TWO ABOVE|THREE ABOVE",
    "775 |ARABIC LETTER FARSI YEH WITH EXTENDED ARABIC-INDIC DIGIT TWO ABOVE",
    "776 ARABIC LETTER FARSI YEH WITH EXTENDED ARABIC-INDIC DIGIT |THREE ABOVE|FOUR BELOW",
    "778 ARABIC LETTER WAW WITH EXTENDED ARABIC-INDIC DIGIT |TWO ABOVE|THREE ABOVE",
    "77a ARABIC LETTER YEH BARREE WITH EXTENDED ARABIC-INDIC DIGIT |TWO ABOVE|THREE ABOVE",
    "77c |ARABIC LETTER HAH WITH EXTENDED ARABIC-INDIC DIGIT FOUR BELOW",
    "77d ARABIC LETTER SEEN WITH |EXTENDED ARABIC-INDIC DIGIT FOUR ABOVE|INVERTED V",
    "77f |ARABIC LETTER KAF WITH TWO DOTS ABOVE",
    "780 THAANA LETTER |HAA|SHAVIYANI|NOONU|RAA|BAA|LHAVIYANI",
    "786 THAANA LETTER |KAAFU|ALIFU|VAAVU|MEEMU|FAAFU|DHAALU|THAA|LAAMU|GAAFU|GNAVIYANI",
    "790 THAANA LETTER |SEENU|DAVIYANI|ZAVIYANI|TAVIYANI|YAA|PAVIYANI|JAVIYANI|CHAVIYANI|TTAA",
    "799 THAANA LETTER |HHAA|KHAA|THAALU|ZAA|SHEENU|SAADHU|DAADHU|TO|ZO|AINU|GHAINU|QAAFU|WAAVU",
    "7a6 THAANA |ABAFILI|AABAAFILI|IBIFILI|EEBEEFILI",
    "7aa THAANA |UBUFILI|OOBOOFILI|EBEFILI|EYBEYFILI|OBOFILI|OABOAFILI|SUKUN|LETTER NAA",
    "7c0 NKO DIGIT |ZERO|ONE|TWO|THREE|FOUR|FIVE|SIX|SEVEN|EIGHT|NINE",
    "7ca NKO LETTER |A|EE|I|E|U|OO|O|DAGBASINNA|N|BA|PA|TA|JA|CHA|DA|RA|RRA|SA|GBA",
    "7dd NKO LETTER |FA|KA|LA|NA WOLOSO|MA|NYA|NA|HA|WA|YA|NYA WOLOSO|JONA JA|JONA CHA|JONA RA",
    "7eb NKO COMBINING SHORT |HIGH TONE|LOW TONE|RISING TONE",
    "7ee NKO COMBINING LONG |DESCENDING TONE|HIGH TONE|LOW TONE|RISING TONE",
    "7f2 NKO COMBINING |NASALIZATION MARK|DOUBLE DOT ABOVE",
    "7f4 NKO |HIGH TONE APOSTROPHE|LOW TONE APOSTROPHE",
    "7f6 NKO |SYMBOL OO DENNEN|SYMBOL GBAKURUNEN|COMMA|EXCLAMATION MARK|LAJANYALAN",
    "7fd NKO |DANTAYALAN|DOROME SIGN|TAMAN SIGN",
    "800 SAMARITAN LETTER |ALAF|BIT|GAMAN|DALAT|IY|BAA|ZEN|IT",
    "808 SAMARITAN LETTER |TIT|YUT|KAAF|LABAT|MIM|NUN|SINGAAT|IN|FI|TSAADIY|QUF|RISH|SHAN|TAAF",
    "816 SAMARITAN MARK |IN|IN-ALAF|OCCLUSION|DAGESH",
    "81a SAMARITAN |MODIFIER LETTER EPENTHETIC YUT|MARK EPENTHETIC YUT",
    "81c SAMARITAN VOWEL SIGN |LONG E|E|OVERLONG AA|LONG AA|AA|OVERLONG A|LONG A|A",
    "824 |SAMARITAN MODIFIER LETTER SHORT A",
    "825 SAMARITAN |VOWEL SIGN SHORT A|VOWEL SIGN LONG U|VOWEL SIGN U|MODIFIER LETTER I",
    "829 SAMARITAN VOWEL SIGN |LONG I|I|O|SUKUN",
    "82d |SAMARITAN MARK NEQUDAA",
    "830 SAMARITAN PUNCTUATION |NEQUDAA|AFSAAQ|ANGED|BAU|ATMAAU|SHIYYAALAA",
    "836 |SAMARITAN ABBREVIATION MARK",
    "837 SAMARITAN PUNCTUATION |MELODIC QITSA|ZIQAA|QITSA|ZAEF|TURU|ARKAANU|SOF MASHFAAT|ANNAAU",
    "840 MANDAIC LETTER |HALQA|AB|AG|AD|AH|USHENNA",
    "846 MANDAIC LETTER |AZ|IT|ATT|AKSA|AK|AL|AM|AN|AS|IN|AP|ASZ|AQ|AR|ASH|AT|DUSHENNA|KAD|AIN",
    "859 MANDAIC |AFFRICATION MARK|VOCALIZATION MARK|GEMINATION MARK",
    "85e |MANDAIC PUNCTUATION",
    "860 SYRIAC LETTER MALAYALAM |NGA|JA|NYA|TTA|NNA|NNNA|BHA|RA|LLA|LLLA|SSA",
    "870 ARABIC LETTER ALEF WITH ATTACHED |FATHA|TOP RIGHT FATHA",
    "872 ARABIC LETTER ALEF WITH |RIGHT MIDDLE STROKE|LEFT MIDDLE STROKE",
    "874 ARABIC LETTER ALEF WITH ATTACHED |KASRA|BOTTOM RIGHT KASRA|ROUND DOT ABOVE",
    "877 ARABIC LETTER ALEF WITH ATTACHED |RIGHT ROUND DOT|LEFT ROUND DOT|ROUND DOT BELOW",
    "87a ARABIC LETTER ALEF WITH |DOT ABOVE|ATTACHED TOP RIGHT FATHA AND DOT ABOVE",
    "87c |ARABIC LETTER ALEF WITH RIGHT MIDDLE STROKE AND DOT ABOVE",
    "87d |ARABIC LETTER ALEF WITH ATTACHED BOTTOM RIGHT KASRA AND DOT ABOVE",
    "87e |ARABIC LETTER ALEF WITH ATTACHED TOP RIGHT FATHA AND LEFT RING",
    "87f |ARABIC LETTER ALEF WITH RIGHT MIDDLE STROKE AND LEFT RING",
    "880 |ARABIC LETTER ALEF WITH ATTACHED BOTTOM RIGHT KASRA AND LEFT RING",
    "881 ARABIC LETTER ALEF WITH ATTACHED |RIGHT HAMZA|LEFT HAMZA",
    "883 ARABIC TATWEEL WITH |OVERSTRUCK HAMZA|OVERSTRUCK WAW|TWO DOTS BELOW",
    "886 ARABIC |LETTER THIN YEH|BASELINE ROUND DOT|RAISED ROUND DOT",
    "889 ARABIC LETTER |NOON WITH INVERTED SMALL V|HAH WITH INVERTED SMALL V BELOW",
    "88b ARABIC LETTER TAH WITH |DOT BELOW|THREE DOTS BELOW",
    "88d ARABIC |LETTER KEHEH WITH TWO DOTS VERTICALLY BELOW|VERTICAL TAIL",
    "890 ARABIC |POUND MARK ABOVE|PIASTRE MARK ABOVE",
    "898 ARABIC SMALL |HIGH WORD AL-JUZ|LOW WORD ISHMAAM|LOW WORD IMAALA|LOW WORD TASHEEL",
    "89c ARABIC |MADDA WAAJIB|SUPERSCRIPT ALEF MOKHASSAS|DOUBLED MADDA|HALF MADDA OVER MADDA",
    "8a0 ARABIC LETTER |BEH WITH SMALL V BELOW|BEH WITH HAMZA ABOVE|JEEM WITH TWO DOTS ABOVE",
    "8a3 ARABIC LETTER |TAH WITH TWO DOTS ABOVE|FEH WITH DOT BELOW AND THREE DOTS ABOVE",
    "8a5 ARABIC LETTER |QAF WITH DOT BELOW|LAM WITH DOUBLE BAR|MEEM WITH THREE DOTS ABOVE",
    "8a8 ARABIC LETTER YEH WITH TWO DOTS BELOW AND |HAMZA ABOVE|DOT ABOVE",
    "8aa |ARABIC LETTER REH WITH LOOP",
    "8ab ARABIC LETTER |WAW WITH DOT WITHIN|ROHINGYA YEH|LOW ALEF|DAL WITH THREE DOTS BELOW",
    "8af ARABIC LETTER |SAD WITH THREE DOTS BELOW|GAF WITH INVERTED STROKE|STRAIGHT WAW",
    "8b2 ARABIC LETTER |ZAIN WITH INVERTED V ABOVE|AIN WITH THREE DOTS BELOW|KAF WITH DOT BELOW",
    "8b5 ARABIC LETTER |QAF WITH DOT BELOW AND NO DOTS ABOVE|BEH WITH SMALL MEEM ABOVE",
    "8b7 ARABIC LETTER |PEH WITH SMALL MEEM ABOVE|TEH WITH SMALL TEH ABOVE",
    "8b9 ARABIC LETTER |REH WITH SMALL NOON ABOVE|YEH WITH TWO DOTS BELOW AND SMALL NOON ABOVE",
    "8bb ARABIC LETTER |AFRICAN FEH|AFRICAN QAF|AFRICAN NOON|PEH WITH SMALL V|TEH WITH SMALL V",
    "8c0 ARABIC LETTER |TTEH WITH SMALL V|TCHEH WITH SMALL V|KEHEH WITH SMALL V",
    "8c3 ARABIC LETTER |GHAIN WITH THREE DOTS ABOVE|AFRICAN QAF WITH THREE DOTS ABOVE",
    "8c5 ARABIC LETTER JEEM WITH THREE DOTS |ABOVE|BELOW",
    "8c7 ARABIC |LETTER LAM WITH SMALL ARABIC LETTER TAH ABOVE|LETTER GRAF|SMALL FARSI YEH",
    "8ca ARABIC SMALL HIGH |FARSI YEH|YEH BARREE WITH TWO DOTS BELOW|WORD SAH|ZAH",
    "8ce ARABIC LARGE ROUND DOT |ABOVE|BELOW",
    "8d0 ARABIC |SUKUN BELOW|LARGE CIRCLE BELOW|LARGE ROUND DOT INSIDE CIRCLE BELOW",
    "8d3 ARABIC SMALL |LOW WAW|HIGH WORD AR-RUB",
    "8d5 ARABIC SMALL |HIGH SAD|HIGH AIN|HIGH QAF|HIGH NOON WITH KASRA|LOW NOON WITH KASRA",
    "8da ARABIC SMALL HIGH WORD |ATH-THALATHA|AS-SAJDA|AN-NISF|SAKTA|QIF|WAQFA",
    "8e0 ARABIC SMALL HIGH |FOOTNOTE MARKER|SIGN SAFHA",
    "8e2 ARABIC |DISPUTED END OF AYAH|TURNED DAMMA BELOW",
    "8e4 ARABIC CURLY |FATHA|DAMMA|KASRA|FATHATAN|DAMMATAN|KASRATAN",
    "8ea ARABIC TONE |ONE DOT ABOVE|TWO DOTS ABOVE|LOOP ABOVE|ONE DOT BELOW|TWO DOTS BELOW",
    "8ef ARABIC |TONE LOOP BELOW|OPEN FATHATAN|OPEN DAMMATAN|OPEN KASRATAN|SMALL HIGH WAW",
    "8f4 ARABIC |FATHA WITH RING|FATHA WITH DOT ABOVE|KASRA WITH DOT BELOW|LEFT ARROWHEAD ABOVE",
    "8f8 ARABIC |RIGHT ARROWHEAD ABOVE|LEFT ARROWHEAD BELOW|RIGHT ARROWHEAD BELOW",
    "8fb ARABIC DOUBLE RIGHT ARROWHEAD |ABOVE|ABOVE WITH DOT",
    "8fd ARABIC |RIGHT ARROWHEAD ABOVE WITH DOT|DAMMA WITH DOT|MARK SIDEWAYS NOON GHUNNA",
    "900 DEVANAGARI SIGN |INVERTED CANDRABINDU|CANDRABINDU|ANUSVARA|VISARGA",
    "904 DEVANAGARI LETTER |SHORT A|A|AA|I|II|U",
    "90a DEVANAGARI LETTER |UU|VOCALIC R|VOCALIC L|CANDRA E|SHORT E|E|AI|CANDRA O|SHORT O|O|AU",
    "915 DEVANAGARI LETTER |KA|KHA|GA|GHA|NGA|CA|CHA|JA|JHA|NYA|TTA|TTHA|DDA|DDHA|NNA|TA|THA|DA",
    "927 DEVANAGARI LETTER |DHA|NA|NNNA|PA|PHA|BA|BHA|MA|YA|RA|RRA|LA|LLA|LLLA|VA|SHA|SSA|SA|HA",
    "93a DEVANAGARI |VOWEL SIGN OE|VOWEL SIGN OOE|SIGN NUKTA|SIGN AVAGRAHA",
    "93e DEVANAGARI VOWEL SIGN |AA|I|II|U|UU|VOCALIC R",
    "944 DEVANAGARI VOWEL SIGN |VOCALIC RR|CANDRA E|SHORT E|E|AI|CANDRA O|SHORT O|O|AU",
    "94d DEVANAGARI |SIGN VIRAMA|VOWEL SIGN PRISHTHAMATRA E|VOWEL SIGN AW",
    "950 DEVANAGARI |OM|STRESS SIGN UDATTA|STRESS SIGN ANUDATTA|GRAVE ACCENT|ACUTE ACCENT",
    "955 DEVANAGARI VOWEL SIGN |CANDRA LONG E|UE|UUE",
    "958 DEVANAGARI LETTER |QA|KHHA|GHHA|ZA|DDDHA|RHA|FA|YYA|VOCALIC RR|VOCALIC LL",
    "962 DEVANAGARI |VOWEL SIGN VOCALIC L|VOWEL SIGN VOCALIC LL|DANDA|DOUBLE DANDA",
    "966 DEVANAGARI DIGIT |ZERO|ONE|TWO|THREE|FOUR|FIVE|SIX|SEVEN|EIGHT|NINE",
    "970 DEVANAGARI |ABBREVIATION SIGN|SIGN HIGH SPACING DOT",
    "972 DEVANAGARI LETTER |CANDRA A|OE|OOE",
    "975 DEVANAGARI LETTER |AW|UE|UUE|MARWARI DDA|ZHA|HEAVY YA|GGA|JJA|GLOTTAL STOP|DDDA|BBA",
    "980 BENGALI |ANJI|SIGN CANDRABINDU|SIGN ANUSVARA|SIGN VISARGA",
    "985 BENGALI LETTER |A|AA|I|II|U|UU|VOCALIC R|VOCALIC L",
    "98f BENGALI LETTER |E|AI",
    "993 BENGALI LETTER |O|AU|KA|KHA",
    "997 BENGALI LETTER |GA|GHA|NGA|CA|CHA|JA|JHA|NYA|TTA|TTHA|DDA|DDHA|NNA|TA|THA|DA|DHA|NA",
    "9aa BENGALI LETTER |PA|PHA|BA|BHA|MA|YA|RA",
    "9b2 |BENGALI LETTER LA",
    "9b6 BENGALI LETTER |SHA|SSA|SA|HA",
    "9bc BENGALI SIGN |NUKTA|AVAGRAHA",
    "9be BENGALI VOWEL SIGN |AA|I|II|U|UU|VOCALIC R|VOCALIC RR",
    "9c7 BENGALI VOWEL SIGN |E|AI",
    "9cb BENGALI |VOWEL SIGN O|VOWEL SIGN AU|SIGN VIRAMA|LETTER KHANDA TA",
    "9d7 |BENGALI AU LENGTH MARK",
    "9dc BENGALI LETTER |RRA|RHA",
    "9df BENGALI LETTER |YYA|VOCALIC RR|VOCALIC LL",
    "9e2 BENGALI VOWEL SIGN VOCALIC |L|LL",
    "9e6 BENGALI DIGIT |ZERO|ONE|TWO|THREE|FOUR|FIVE|SIX|SEVEN|EIGHT|NINE",
    "9f0 BENGALI LETTER RA WITH |MIDDLE DIAGONAL|LOWER DIAGONAL",
    "9f2 BENGALI RUPEE |MARK|SIGN",
    "9f4 BENGALI CURRENCY NUMERATOR |ONE|TWO|THREE|FOUR|ONE LESS THAN THE DENOMINATOR",
    "9f9 |BENGALI CURRENCY DENOMINATOR SIXTEEN",
    "9fa BENGALI |ISSHAR|GANDA MARK|LETTER VEDIC ANUSVARA|ABBREVIATION SIGN|SANDHI MARK",
    "a01 GURMUKHI SIGN |ADAK BINDI|BINDI|VISARGA",
    "a05 GURMUKHI LETTER |A|AA|I|II|U|UU",
    "a0f GURMUKHI LETTER |EE|AI",
    "a13 GURMUKHI LETTER |OO|AU|KA|KHA",
    "a17 GURMUKHI LETTER |GA|GHA|NGA|CA|CHA|JA|JHA|NYA|TTA|TTHA|DDA|DDHA|NNA|TA|THA|DA|DHA|NA",
    "a2a GURMUKHI LETTER |PA|PHA|BA|BHA|MA|YA|RA",
    "a32 GURMUKHI LETTER |LA|LLA",
    "a35 GURMUKHI LETTER |VA|SHA",
    "a38 GURMUKHI LETTER |SA|HA",
    "a3c |GURMUKHI SIGN NUKTA",
    "a3e GURMUKHI VOWEL SIGN |AA|I|II|U|UU",
    "a47 GURMUKHI VOWEL SIGN |EE|AI",
    "a4b GURMUKHI |VOWEL SIGN OO|VOWEL SIGN AU|SIGN VIRAMA",
    "a51 |GURMUKHI SIGN UDAAT",
    "a59 GURMUKHI LETTER |KHHA|GHHA|ZA|RRA",
    "a5e |GURMUKHI LETTER FA",
    "a66 GURMUKHI DIGIT |ZERO|ONE|TWO|THREE|FOUR|FIVE|SIX|SEVEN|EIGHT|NINE",
    "a70 GURMUKHI |TIPPI|ADDAK|IRI|URA|EK ONKAR|SIGN YAKASH|ABBREVIATION SIGN",
    "a81 GUJARATI SIGN |CANDRABINDU|ANUSVARA|VISARGA",
    "a85 GUJARATI LETTER |A|AA|I|II|U|UU|VOCALIC R|VOCALIC L",
    "a8d |GUJARATI VOWEL CANDRA E",
    "a8f GUJARATI |LETTER E|LETTER AI|VOWEL CANDRA O",
    "a93 GUJARATI LETTER |O|AU|KA|KHA",
    "a97 GUJARATI LETTER |GA|GHA|NGA|CA|CHA|JA|JHA|NYA|TTA|TTHA|DDA|DDHA|NNA|TA|THA|DA|DHA|NA",
    "aaa GUJARATI LETTER |PA|PHA|BA|BHA|MA|YA|RA",
    "ab2 GUJARATI LETTER |LA|LLA",
    "ab5 GUJARATI LETTER |VA|SHA|SSA|SA|HA",
    "abc GUJARATI SIGN |NUKTA|AVAGRAHA",
    "abe GUJARATI VOWEL SIGN |AA|I|II|U|UU|VOCALIC R|VOCALIC RR|CANDRA E",
    "ac7 GUJARATI VOWEL SIGN |E|AI|CANDRA O",
    "acb GUJARATI |VOWEL SIGN O|VOWEL SIGN AU|SIGN VIRAMA",
    "ad0 |GUJARATI OM",
    "ae0 GUJARATI LETTER VOCALIC |RR|LL",
    "ae2 GUJARATI VOWEL SIGN VOCALIC |L|LL",
    "ae6 GUJARATI DIGIT |ZERO|ONE|TWO|THREE|FOUR|FIVE|SIX|SEVEN|EIGHT|NINE",
    "af0 GUJARATI |ABBREVIATION SIGN|RUPEE SIGN",
    "af9 GUJARATI |LETTER ZHA|SIGN SUKUN|SIGN SHADDA",
    "afc GUJARATI SIGN |MADDAH|THREE-DOT NUKTA ABOVE|CIRCLE NUKTA ABOVE|TWO-CIRCLE NUKTA ABOVE",
    "b01 ORIYA SIGN |CANDRABINDU|ANUSVARA|VISARGA",
    "b05 ORIYA LETTER |A|AA|I|II|U|UU|VOCALIC R|VOCALIC L",
    "b0f ORIYA LETTER |E|AI",
    "b13 ORIYA LETTER |O|AU|KA",
    "b16 ORIYA LETTER |KHA|GA|GHA|NGA|CA|CHA|JA|JHA|NYA|TTA|TTHA|DDA|DDHA|NNA|TA|THA|DA|DHA|NA",
    "b2a ORIYA LETTER |PA|PHA|BA|BHA|MA|YA|RA",
    "b32 ORIYA LETTER |LA|LLA",
    "b35 ORIYA LETTER |VA|SHA|SSA|SA|HA",
    "b3c ORIYA SIGN |NUKTA|AVAGRAHA",
    "b3e ORIYA VOWEL SIGN |AA|I|II|U|UU|VOCALIC R|VOCALIC RR",
    "b47 ORIYA VOWEL SIGN |E|AI",
    "b4b ORIYA |VOWEL SIGN O|VOWEL SIGN AU|SIGN VIRAMA",
    "b55 ORIYA |SIGN OVERLINE|AI LENGTH MARK|AU LENGTH MARK",
    "b5c ORIYA LETTER |RRA|RHA",
    "b5f ORIYA LETTER |YYA|VOCALIC RR|VOCALIC LL",
    "b62 ORIYA VOWEL SIGN VOCALIC |L|LL",
    "b66 ORIYA DIGIT |ZERO|ONE|TWO|THREE|FOUR|FIVE|SIX|SEVEN|EIGHT|NINE",
    "b70 ORIYA |ISSHAR|LETTER WA|FRACTION ONE QUARTER",
    "b73 ORIYA FRACTION |ONE HALF|THREE QUARTERS|ONE SIXTEENTH|ONE EIGHTH|THREE SIXTEENTHS",
    "b82 TAMIL SIGN |ANUSVARA|VISARGA",
    "b85 TAMIL LETTER |A|AA|I|II|U|UU",
    "b8e TAMIL LETTER |E|EE|AI",
    "b92 TAMIL LETTER |O|OO|AU|KA",
    "b99 TAMIL LETTER |NGA|CA",
    "b9c |TAMIL LETTER JA",
    "b9e TAMIL LETTER |NYA|TTA",
    "ba3 TAMIL LETTER |NNA|TA",
    "ba8 TAMIL LETTER |NA|NNNA|PA",
    "bae TAMIL LETTER |MA|YA|RA|RRA|LA|LLA|LLLA|VA|SHA|SSA|SA|HA",
    "bbe TAMIL VOWEL SIGN |AA|I|II|U|UU",
    "bc6 TAMIL VOWEL SIGN |E|EE|AI",
    "bca TAMIL VOWEL SIGN |O|OO|AU",
    "bcd |TAMIL SIGN VIRAMA",
    "bd0 |TAMIL OM",
    "bd7 |TAMIL AU LENGTH MARK",
    "be6 TAMIL DIGIT |ZERO|ONE|TWO|THREE|FOUR|FIVE|SIX|SEVEN|EIGHT|NINE",
    "bf0 TAMIL |NUMBER TEN|NUMBER ONE HUNDRED|NUMBER ONE THOUSAND|DAY SIGN|MONTH SIGN",
    "bf5 TAMIL |YEAR SIGN|DEBIT SIGN|CREDIT SIGN|AS ABOVE SIGN|RUPEE SIGN|NUMBER SIGN",
    "c00 |TELUGU SIGN COMBINING CANDRABINDU ABOVE",
    "c01 TELUGU SIGN |CANDRABINDU|ANUSVARA|VISARGA|COMBINING ANUSVARA ABOVE",
    "c05 TELUGU LETTER |A|AA|I|II|U|UU|VOCALIC R|VOCALIC L",
    "c0e TELUGU LETTER |E|EE|AI",
    "c12 TELUGU LETTER |O|OO|AU|KA",
    "c16 TELUGU LETTER |KHA|GA|GHA|NGA|CA|CHA|JA|JHA|NYA|TTA|TTHA|DDA|DDHA|NNA|TA|THA|DA|DHA|NA",
    "c2a TELUGU LETTER |PA|PHA|BA|BHA|MA|YA|RA|RRA|LA|LLA|LLLA|VA|SHA|SSA|SA|HA",
    "c3c TELUGU SIGN |NUKTA|AVAGRAHA",
    "c3e TELUGU VOWEL SIGN |AA|I|II|U|UU|VOCALIC R|VOCALIC RR",
    "c46 TELUGU VOWEL SIGN |E|EE|AI",
    "c4a TELUGU VOWEL SIGN |O|OO|AU",
    "c4d |TELUGU SIGN VIRAMA",
    "c55 TELUGU |LENGTH MARK|AI LENGTH MARK",
    "c58 TELUGU LETTER |TSA|DZA|RRRA",
    "c5d |TELUGU LETTER NAKAARA POLLU",
    "c60 TELUGU LETTER VOCALIC |RR|LL",
    "c62 TELUGU VOWEL SIGN VOCALIC |L|LL",
    "c66 TELUGU DIGIT |ZERO|ONE|TWO|THREE|FOUR|FIVE|SIX|SEVEN|EIGHT|NINE",
    "c77 |TELUGU SIGN SIDDHAM",
    "c78 TELUGU FRACTION DIGIT |ZERO FOR ODD POWERS OF FOUR|ONE FOR ODD POWERS OF FOUR",
    "c7a TELUGU FRACTION DIGIT |TWO FOR ODD POWERS OF FOUR|THREE FOR ODD POWERS OF FOUR",
    "c7c TELUGU FRACTION DIGIT |ONE FOR EVEN POWERS OF FOUR|TWO FOR EVEN POWERS OF FOUR",
    "c7e TELUGU |FRACTION DIGIT THREE FOR EVEN POWERS OF FOUR|SIGN TUUMU",
    "c80 KANNADA SIGN |SPACING CANDRABINDU|CANDRABINDU|ANUSVARA|VISARGA|SIDDHAM",
    "c85 KANNADA LETTER |A|AA|I|II|U|UU|VOCALIC R|VOCALIC L",
    "c8e KANNADA LETTER |E|EE|AI",
    "c92 KANNADA LETTER |O|OO|AU|KA|KHA",
    "c97 KANNADA LETTER |GA|GHA|NGA|CA|CHA|JA|JHA|NYA|TTA|TTHA|DDA|DDHA|NNA|TA|THA|DA|DHA|NA",
    "caa KANNADA LETTER |PA|PHA|BA|BHA|MA|YA|RA|RRA|LA|LLA",
    "cb5 KANNADA LETTER |VA|SHA|SSA|SA|HA",
    "cbc KANNADA SIGN |NUKTA|AVAGRAHA",
    "cbe KANNADA VOWEL SIGN |AA|I|II|U|UU|VOCALIC R|VOCALIC RR",
    "cc6 KANNADA VOWEL SIGN |E|EE|AI",
    "cca KANNADA |VOWEL SIGN O|VOWEL SIGN OO|VOWEL SIGN AU|SIGN VIRAMA",
    "cd5 KANNADA |LENGTH MARK|AI LENGTH MARK",
    "cdd KANNADA LETTER |NAKAARA POLLU|FA",
    "ce0 KANNADA LETTER VOCALIC |RR|LL",
    "ce2 KANNADA VOWEL SIGN VOCALIC |L|LL",
    "ce6 KANNADA DIGIT |ZERO|ONE|TWO|THREE|FOUR|FIVE|SIX|SEVEN|EIGHT|NINE",
    "cf1 KANNADA SIGN |JIHVAMULIYA|UPADHMANIYA",
    "d00 MALAYALAM SIGN |COMBINING ANUSVARA ABOVE|CANDRABINDU|ANUSVARA|VISARGA",
    "d04 MALAYALAM LETTER |VEDIC ANUSVARA|A|AA|I|II|U|UU|VOCALIC R|VOCALIC L",
    "d0e MALAYALAM LETTER |E|EE|AI",
    "d12 MALAYALAM LETTER |O|OO|AU|KA",
    "d16 MALAYALAM LETTER |KHA|GA|GHA|NGA|CA|CHA|JA|JHA|NYA|TTA|TTHA|DDA|DDHA|NNA|TA|THA|DA|DHA",
    "d28 MALAYALAM LETTER |NA|NNNA|PA|PHA|BA|BHA|MA|YA|RA|RRA|LA|LLA|LLLA|VA|SHA|SSA|SA|HA|TTTA",
    "d3b MALAYALAM SIGN |VERTICAL BAR VIRAMA|CIRCULAR VIRAMA|AVAGRAHA",
    "d3e MALAYALAM VOWEL SIGN |AA|I|II|U|UU|VOCALIC R|VOCALIC RR",
    "d46 MALAYALAM VOWEL SIGN |E|EE|AI",
    "d4a MALAYALAM VOWEL SIGN |O|OO|AU",
    "d4d MALAYALAM |SIGN VIRAMA|LETTER DOT REPH|SIGN PARA",
    "d54 MALAYALAM LETTER CHILLU |M|Y|LLL",
    "d57 |MALAYALAM AU LENGTH MARK",
    "d58 MALAYALAM FRACTION |ONE ONE-HUNDRED-AND-SIXTIETH|ONE FORTIETH|THREE EIGHTIETHS",
    "d5b MALAYALAM FRACTION |ONE TWENTIETH|ONE TENTH|THREE TWENTIETHS|ONE FIFTH",
    "d5f MALAYALAM LETTER |ARCHAIC II|VOCALIC RR|VOCALIC LL",
    "d62 MALAYALAM VOWEL SIGN VOCALIC |L|LL",
    "d66 MALAYALAM DIGIT |ZERO|ONE|TWO|THREE|FOUR|FIVE|SIX|SEVEN|EIGHT|NINE",
    "d70 MALAYALAM NUMBER |TEN|ONE HUNDRED|ONE THOUSAND",
    "d73 MALAYALAM FRACTION |ONE QUARTER|ONE HALF|THREE QUARTERS|ONE SIXTEENTH|ONE EIGHTH",
    "d78 MALAYALAM |FRACTION THREE SIXTEENTHS|DATE MARK",
    "d7a MALAYALAM LETTER CHILLU |NN|N|RR|L|LL|K",
    "d81 SINHALA SIGN |CANDRABINDU|ANUSVARAYA|VISARGAYA",
    "d85 SINHALA LETTER |AYANNA|AAYANNA",
    "d87 SINHALA LETTER |AEYANNA|AEEYANNA|IYANNA|IIYANNA|UYANNA|UUYANNA|IRUYANNA|IRUUYANNA",
    "d8f SINHALA LETTER |ILUYANNA|ILUUYANNA|EYANNA|EEYANNA|AIYANNA|OYANNA|OOYANNA|AUYANNA",
    "d9a SINHALA LETTER |ALPAPRAANA KAYANNA|MAHAAPRAANA KAYANNA|ALPAPRAANA GAYANNA",
    "d9d SINHALA LETTER |MAHAAPRAANA GAYANNA|KANTAJA NAASIKYAYA|SANYAKA GAYANNA",
    "da0 SINHALA LETTER |ALPAPRAANA CAYANNA|MAHAAPRAANA CAYANNA|ALPAPRAANA JAYANNA",
    "da3 SINHALA LETTER |MAHAAPRAANA JAYANNA|TAALUJA NAASIKYAYA|TAALUJA SANYOOGA NAAKSIKYAYA",
    "da6 SINHALA LETTER |SANYAKA JAYANNA|ALPAPRAANA TTAYANNA|MAHAAPRAANA TTAYANNA",
    "da9 SINHALA LETTER |ALPAPRAANA DDAYANNA|MAHAAPRAANA DDAYANNA|MUURDHAJA NAYANNA",
    "dac SINHALA LETTER |SANYAKA DDAYANNA|ALPAPRAANA TAYANNA|MAHAAPRAANA TAYANNA",
    "daf SINHALA LETTER |ALPAPRAANA DAYANNA|MAHAAPRAANA DAYANNA|DANTAJA NAYANNA",
    "db3 |SINHALA LETTER SANYAKA DAYANNA",
    "db4 SINHALA LETTER |ALPAPRAANA PAYANNA|MAHAAPRAANA PAYANNA|ALPAPRAANA BAYANNA",
    "db7 SINHALA LETTER |MAHAAPRAANA BAYANNA|MAYANNA|AMBA BAYANNA|YAYANNA|RAYANNA",
    "dbd |SINHALA LETTER DANTAJA LAYANNA",
    "dc0 SINHALA LETTER |VAYANNA|TAALUJA SAYANNA",
    "dc2 SINHALA LETTER |MUURDHAJA SAYANNA|DANTAJA SAYANNA|HAYANNA|MUURDHAJA LAYANNA|FAYANNA",
    "dca |SINHALA SIGN AL-LAKUNA",
    "dcf SINHALA VOWEL SIGN |AELA-PILLA|KETTI AEDA-PILLA",
    "dd1 SINHALA VOWEL SIGN |DIGA AEDA-PILLA|KETTI IS-PILLA|DIGA IS-PILLA|KETTI PAA-PILLA",
    "dd6 |SINHALA VOWEL SIGN DIGA PAA-PILLA",
    "dd8 SINHALA VOWEL SIGN |GAETTA-PILLA|KOMBUVA|DIGA KOMBUVA|KOMBU DEKA",
    "ddc SINHALA VOWEL SIGN KOMBUVA HAA |AELA-PILLA|DIGA AELA-PILLA|GAYANUKITTA",
    "ddf |SINHALA VOWEL SIGN GAYANUKITTA",
    "de6 SINHALA LITH DIGIT |ZERO|ONE|TWO|THREE|FOUR|FIVE|SIX|SEVEN|EIGHT|NINE",
    "df2 SINHALA VOWEL SIGN DIGA |GAETTA-PILLA|GAYANUKITTA",
    "df4 |SINHALA PUNCTUATION KUNDDALIYA"]

end Name
end Text
end DebugIndex
