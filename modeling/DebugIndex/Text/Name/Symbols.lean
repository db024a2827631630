/-!
# The names of punctuation, symbols and the radicals

The names that Unicode 14 gives to the code points from U+2000 to U+2FFB.  A row
begins with its first code point and what its names have in common; the endings
of the names of that point and those behind it follow, each after a bar.
-/

namespace DebugIndex
namespace Text
namespace Name

/-- The rows of the table, in ascending order. -/
def symbolsRows : List String :=
  ["2000 |EN QUAD|EM QUAD|EN SPACE|EM SPACE|THREE-PER-EM SPACE|FOUR-PER-EM SPACE",
    "2006 |SIX-PER-EM SPACE|FIGURE SPACE|PUNCTUATION SPACE|THIN SPACE|HAIR SPACE",
    "200b ZERO WIDTH |SPACE|NON-JOINER|JOINER",
    "200e |LEFT-TO-RIGHT MARK|RIGHT-TO-LEFT MARK|HYPHEN",
    "2011 |NON-BREAKING HYPHEN|FIGURE DASH|EN DASH|EM DASH|HORIZONTAL BAR|DOUBLE VERTICAL LINE",
    "2017 |DOUBLE LOW LINE|LEFT SINGLE QUOTATION MARK|RIGHT SINGLE QUOTATION MARK",
    "201a SINGLE |LOW-9 QUOTATION MARK|HIGH-REVERSED-9 QUOTATION MARK",
    "201c |LEFT DOUBLE QUOTATION MARK|RIGHT DOUBLE QUOTATION MARK|DOUBLE LOW-9 QUOTATION MARK",
    "201f |DOUBLE HIGH-REVERSED-9 QUOTATION MARK|DAGGER|DOUBLE DAGGER|BULLET",
    "2023 |TRIANGULAR BULLET|ONE DOT LEADER|TWO DOT LEADER|HORIZONTAL ELLIPSIS|HYPHENATION POINT",
    "2028 |LINE SEPARATOR|PARAGRAPH SEPARATOR|LEFT-TO-RIGHT EMBEDDING|RIGHT-TO-LEFT EMBEDDING",
    "202c |POP DIRECTIONAL FORMATTING|LEFT-TO-RIGHT OVERRIDE|RIGHT-TO-LEFT OVERRIDE",
    "202f |NARROW NO-BREAK SPACE|PER MILLE SIGN|PER TEN THOUSAND SIGN|PRIME|DOUBLE PRIME",
    "2034 |TRIPLE PRIME|REVERSED PRIME|REVERSED DOUBLE PRIME|REVERSED TRIPLE PRIME|CARET",
    "2039 SINGLE |LEFT-POINTING ANGLE QUOTATION MARK|RIGHT-POINTING ANGLE QUOTATION MARK",
    "203b |REFERENCE MARK|DOUBLE EXCLAMATION MARK|INTERROBANG",
    "203e |OVERLINE|UNDERTIE|CHARACTER TIE|CARET INSERTION POINT|ASTERISM|HYPHEN BULLET",
    "2044 |FRACTION SLASH|LEFT SQUARE BRACKET WITH QUILL|RIGHT SQUARE BRACKET WITH QUILL",
    "2047 |DOUBLE QUESTION MARK|QUESTION EXCLAMATION MARK|EXCLAMATION QUESTION MARK",
    "204a |TIRONIAN SIGN ET|REVERSED PILCROW SIGN|BLACK LEFTWARDS BULLET",
    "204d |BLACK RIGHTWARDS BULLET|LOW ASTERISK|REVERSED SEMICOLON|CLOSE UP",
    "2051 |TWO ASTERISKS ALIGNED VERTICALLY|COMMERCIAL MINUS SIGN|SWUNG DASH|INVERTED UNDERTIE",
    "2055 |FLOWER PUNCTUATION MARK|THREE DOT PUNCTUATION|QUADRUPLE PRIME|FOUR DOT PUNCTUATION",
    "2059 |FIVE DOT PUNCTUATION|TWO DOT PUNCTUATION|FOUR DOT MARK|DOTTED CROSS|TRICOLON",
    "205e |VERTICAL FOUR DOTS|MEDIUM MATHEMATICAL SPACE|WORD JOINER|FUNCTION APPLICATION",
    "2062 INVISIBLE |TIMES|SEPARATOR|PLUS",
    "2066 |LEFT-TO-RIGHT ISOLATE|RIGHT-TO-LEFT ISOLATE|FIRST STRONG ISOLATE",
    "2069 |POP DIRECTIONAL ISOLATE|INHIBIT SYMMETRIC SWAPPING|ACTIVATE SYMMETRIC SWAPPING",
    "206c |INHIBIT ARABIC FORM SHAPING|ACTIVATE ARABIC FORM SHAPING|NATIONAL DIGIT SHAPES",
    "206f |NOMINAL DIGIT SHAPES|SUPERSCRIPT ZERO|SUPERSCRIPT LATIN SMALL LETTER I",
    "2074 SUPERSCRIPT |FOUR|FIVE|SIX|SEVEN|EIGHT|NINE|PLUS SIGN",
    "207b SUPERSCRIPT |MINUS|EQUALS SIGN|LEFT PARENTHESIS|RIGHT PARENTHESIS|LATIN SMALL LETTER N",
    "2080 SUBSCRIPT |ZERO|ONE|TWO|THREE|FOUR|FIVE|SIX|SEVEN",
    "2088 SUBSCRIPT |EIGHT|NINE|PLUS SIGN|MINUS|EQUALS SIGN|LEFT PARENTHESIS|RIGHT PARENTHESIS",
    "2090 LATIN SUBSCRIPT SMALL LETTER |A|E|O|X|SCHWA|H|K|L|M|N|P|S|T",
    "20a0 |EURO-CURRENCY SIGN|COLON SIGN",
    "20a2 |CRUZEIRO SIGN|FRENCH FRANC SIGN|LIRA SIGN|MILL SIGN|NAIRA SIGN|PESETA SIGN|RUPEE SIGN",
    "20a9 |WON SIGN|NEW SHEQEL SIGN|DONG SIGN|EURO SIGN|KIP SIGN|TUGRIK SIGN|DRACHMA SIGN",
    "20b0 |GERMAN PENNY SIGN|PESO SIGN|GUARANI SIGN|AUSTRAL SIGN|HRYVNIA SIGN|CEDI SIGN",
    "20b6 |LIVRE TOURNOIS SIGN|SPESMILO SIGN|TENGE SIGN|INDIAN RUPEE SIGN|TURKISH LIRA SIGN",
    "20bb |NORDIC MARK SIGN|MANAT SIGN|RUBLE SIGN|LARI SIGN|BITCOIN SIGN|SOM SIGN",
    "20d0 COMBINING |LEFT HARPOON ABOVE|RIGHT HARPOON ABOVE|LONG VERTICAL LINE OVERLAY",
    "20d3 COMBINING |SHORT VERTICAL LINE OVERLAY|ANTICLOCKWISE ARROW ABOVE|CLOCKWISE ARROW ABOVE",
    "20d6 COMBINING |LEFT ARROW ABOVE|RIGHT ARROW ABOVE|RING OVERLAY|CLOCKWISE RING OVERLAY",
    "20da COMBINING |ANTICLOCKWISE RING OVERLAY|THREE DOTS ABOVE|FOUR DOTS ABOVE",
    "20dd COMBINING ENCLOSING |CIRCLE|SQUARE|DIAMOND|CIRCLE BACKSLASH",
    "20e1 |COMBINING LEFT RIGHT ARROW ABOVE",
    "20e2 COMBINING ENCLOSING |SCREEN|KEYCAP|UPWARD POINTING TRIANGLE",
    "20e5 COMBINING |REVERSE SOLIDUS OVERLAY|DOUBLE VERTICAL STROKE OVERLAY",
    "20e7 COMBINING |ANNUITY SYMBOL|TRIPLE UNDERDOT|WIDE BRIDGE ABOVE|LEFTWARDS ARROW OVERLAY",
    "20eb COMBINING |LONG DOUBLE SOLIDUS OVERLAY|RIGHTWARDS HARPOON WITH BARB DOWNWARDS",
    "20ed |COMBINING LEFTWARDS HARPOON WITH BARB DOWNWARDS",
    "20ee COMBINING |LEFT ARROW BELOW|RIGHT ARROW BELOW|ASTERISK ABOVE",
    "2100 |ACCOUNT OF|ADDRESSED TO THE SUBJECT|DOUBLE-STRUCK CAPITAL C|DEGREE CELSIUS",
    "2104 |CENTRE LINE SYMBOL|CARE OF|CADA UNA|EULER CONSTANT|SCRUPLE|DEGREE FAHRENHEIT",
    "210a |SCRIPT SMALL G|SCRIPT CAPITAL H|BLACK-LETTER CAPITAL H|DOUBLE-STRUCK CAPITAL H",
    "210e |PLANCK CONSTANT|PLANCK CONSTANT OVER TWO PI|SCRIPT CAPITAL I|BLACK-LETTER CAPITAL I",
    "2112 |SCRIPT CAPITAL L|SCRIPT SMALL L|L B BAR SYMBOL|DOUBLE-STRUCK CAPITAL N|NUMERO SIGN",
    "2117 SOUND RECORDING COPY|RIGHT",
    "2118 |SCRIPT CAPITAL P",
    "2119 DOUBLE-STRUCK CAPITAL |P|Q",
    "211b |SCRIPT CAPITAL R|BLACK-LETTER CAPITAL R",
    "211d |DOUBLE-STRUCK CAPITAL R|PRESCRIPTION TAKE|RESPONSE|SERVICE MARK",
    "2121 |TELEPHONE SIGN|TRADE MARK SIGN|VERSICLE|DOUBLE-STRUCK CAPITAL Z|OUNCE SIGN|OHM SIGN",
    "2127 |INVERTED OHM SIGN|BLACK-LETTER CAPITAL Z|TURNED GREEK SMALL LETTER IOTA|KELVIN SIGN",
    "212b |ANGSTROM SIGN|SCRIPT CAPITAL B|BLACK-LETTER CAPITAL C|ESTIMATED SYMBOL|SCRIPT SMALL E",
    "2130 SCRIPT CAPITAL |E|F",
    "2132 |TURNED CAPITAL F|SCRIPT CAPITAL M|SCRIPT SMALL O|ALEF SYMBOL|BET SYMBOL",
    "2137 |GIMEL SYMBOL|DALET SYMBOL|INFORMATION SOURCE|ROTATED CAPITAL Q|FACSIMILE SIGN",
    "213c DOUBLE-STRUCK |SMALL PI|SMALL GAMMA|CAPITAL GAMMA|CAPITAL PI|N-ARY SUMMATION",
    "2141 TURNED SANS-SERIF CAPITAL |G|L",
    "2143 |REVERSED SANS-SERIF CAPITAL L|TURNED SANS-SERIF CAPITAL Y",
    "2145 DOUBLE-STRUCK ITALIC |CAPITAL D|SMALL D|SMALL E|SMALL I|SMALL J",
    "214a |PROPERTY LINE",
    "214b |TURNED AMPERSAND|PER SIGN|AKTIESELSKAB|TURNED SMALL F|SYMBOL FOR SAMARITAN SOURCE",
    "2150 VULGAR FRACTION ONE |SEVENTH|NINTH|TENTH|THIRD",
    "2154 VULGAR FRACTION |TWO THIRDS|ONE FIFTH|TWO FIFTHS|THREE FIFTHS|FOUR FIFTHS|ONE SIXTH",
    "215a VULGAR FRACTION |FIVE SIXTHS|ONE EIGHTH|THREE EIGHTHS|FIVE EIGHTHS|SEVEN EIGHTHS",
    "215f |FRACTION NUMERATOR ONE",
    "2160 ROMAN NUMERAL |ONE|TWO|THREE|FOUR|FIVE|SIX|SEVEN|EIGHT",
    "2168 ROMAN NUMERAL |NINE|TEN|ELEVEN|TWELVE|FIFTY|ONE HUNDRED|FIVE HUNDRED|ONE THOUSAND",
    "2170 SMALL ROMAN NUMERAL |ONE|TWO|THREE|FOUR|FIVE|SIX|SEVEN|EIGHT|NINE",
    "2179 SMALL ROMAN NUMERAL |TEN|ELEVEN|TWELVE|FIFTY|ONE HUNDRED|FIVE HUNDRED|ONE THOUSAND",
    "2180 ROMAN NUMERAL |ONE THOUSAND C D|FIVE THOUSAND|TEN THOUSAND|REVERSED ONE HUNDRED",
    "2184 |LATIN SMALL LETTER REVERSED C",
    "2185 ROMAN NUMERAL |SIX LATE FORM|FIFTY EARLY FORM|FIFTY THOUSAND|ONE HUNDRED THOUSAND",
    "2189 |VULGAR FRACTION ZERO THIRDS|TURNED DIGIT TWO|TURNED DIGIT THREE",
    "2190 |LEFTWARDS ARROW|UPWARDS ARROW",
    "2192 |RIGHTWARDS ARROW|DOWNWARDS ARROW|LEFT RIGHT ARROW|UP DOWN ARROW|NORTH WEST ARROW",
    "2197 |NORTH EAST ARROW|SOUTH EAST ARROW|SOUTH WEST ARROW|LEFTWARDS ARROW WITH STROKE",
    "219b |RIGHTWARDS ARROW WITH STROKE|LEFTWARDS WAVE ARROW|RIGHTWARDS WAVE ARROW",
    "219e |LEFTWARDS TWO HEADED ARROW|UPWARDS TWO HEADED ARROW|RIGHTWARDS TWO HEADED ARROW",
    "21a1 |DOWNWARDS TWO HEADED ARROW|LEFTWARDS ARROW WITH TAIL|RIGHTWARDS ARROW WITH TAIL",
    "21a4 |LEFTWARDS ARROW FROM BAR|UPWARDS ARROW FROM BAR|RIGHTWARDS ARROW FROM BAR",
    "21a7 |DOWNWARDS ARROW FROM BAR|UP DOWN ARROW WITH BASE|LEFTWARDS ARROW WITH HOOK",
    "21aa |RIGHTWARDS ARROW WITH HOOK|LEFTWARDS ARROW WITH LOOP|RIGHTWARDS ARROW WITH LOOP",
    "21ad |LEFT RIGHT WAVE ARROW|LEFT RIGHT ARROW WITH STROKE|DOWNWARDS ZIGZAG ARROW",
    "21b0 UPWARDS ARROW WITH TIP |LEFTWARDS|RIGHTWARDS",
    "21b2 DOWNWARDS ARROW WITH TIP |LEFTWARDS|RIGHTWARDS",
    "21b4 |RIGHTWARDS ARROW WITH CORNER DOWNWARDS|DOWNWARDS ARROW WITH CORNER LEFTWARDS",
    "21b6 |ANTICLOCKWISE TOP SEMICIRCLE ARROW|CLOCKWISE TOP SEMICIRCLE ARROW",
    "21b8 |NORTH WEST ARROW TO LONG BAR|LEFTWARDS ARROW TO BAR OVER RIGHTWARDS ARROW TO BAR",
    "21ba |ANTICLOCKWISE OPEN CIRCLE ARROW|CLOCKWISE OPEN CIRCLE ARROW",
    "21bc LEFTWARDS HARPOON WITH BARB |UPWARDS|DOWNWARDS",
    "21be UPWARDS HARPOON WITH BARB |RIGHTWARDS|LEFTWARDS",
    "21c0 RIGHTWARDS HARPOON WITH BARB |UPWARDS|DOWNWARDS",
    "21c2 DOWNWARDS HARPOON WITH BARB |RIGHTWARDS|LEFTWARDS",
    "21c4 |RIGHTWARDS ARROW OVER LEFTWARDS ARROW|UPWARDS ARROW LEFTWARDS OF DOWNWARDS ARROW",
    "21c6 LEFTWARDS |ARROW OVER RIGHTWARDS ARROW|PAIRED ARROWS",
    "21c8 |UPWARDS PAIRED ARROWS|RIGHTWARDS PAIRED ARROWS|DOWNWARDS PAIRED ARROWS",
    "21cb |LEFTWARDS HARPOON OVER RIGHTWARDS HARPOON|RIGHTWARDS HARPOON OVER LEFTWARDS HARPOON",
    "21cd |LEFTWARDS DOUBLE ARROW WITH STROKE|LEFT RIGHT DOUBLE ARROW WITH STROKE",
    "21cf |RIGHTWARDS DOUBLE ARROW WITH STROKE|LEFTWARDS DOUBLE ARROW|UPWARDS DOUBLE ARROW",
    "21d2 |RIGHTWARDS DOUBLE ARROW|DOWNWARDS DOUBLE ARROW|LEFT RIGHT DOUBLE ARROW",
    "21d5 |UP DOWN DOUBLE ARROW|NORTH WEST DOUBLE ARROW|NORTH EAST DOUBLE ARROW",
    "21d8 SOUTH |EAST DOUBLE ARROW|WEST DOUBLE ARROW",
    "21da |LEFTWARDS TRIPLE ARROW|RIGHTWARDS TRIPLE ARROW",
    "21dc |LEFTWARDS SQUIGGLE ARROW|RIGHTWARDS SQUIGGLE ARROW|UPWARDS ARROW WITH DOUBLE STROKE",
    "21df |DOWNWARDS ARROW WITH DOUBLE STROKE|LEFTWARDS DASHED ARROW",
    "21e1 |UPWARDS DASHED ARROW|RIGHTWARDS DASHED ARROW|DOWNWARDS DASHED ARROW",
    "21e4 |LEFTWARDS ARROW TO BAR|RIGHTWARDS ARROW TO BAR|LEFTWARDS WHITE ARROW",
    "21e7 |UPWARDS WHITE ARROW|RIGHTWARDS WHITE ARROW|DOWNWARDS WHITE ARROW",
    "21ea UPWARDS WHITE ARROW |FROM BAR|ON PEDESTAL",
    "21ec UPWARDS WHITE ARROW ON PEDESTAL WITH |HORIZONTAL BAR|VERTICAL BAR",
    "21ee UPWARDS WHITE DOUBLE |ARROW|ARROW ON PEDESTAL",
    "21f0 |RIGHTWARDS WHITE ARROW FROM WALL|NORTH WEST ARROW TO CORNER",
    "21f2 |SOUTH EAST ARROW TO CORNER|UP DOWN WHITE ARROW|RIGHT ARROW WITH SMALL CIRCLE",
    "21f5 |DOWNWARDS ARROW LEFTWARDS OF UPWARDS ARROW|THREE RIGHTWARDS ARROWS",
    "21f7 |LEFTWARDS ARROW WITH VERTICAL STROKE|RIGHTWARDS ARROW WITH VERTICAL STROKE",
    "21f9 |LEFT RIGHT ARROW WITH VERTICAL STROKE|LEFTWARDS ARROW WITH DOUBLE VERTICAL STROKE",
    "21fb |RIGHTWARDS ARROW WITH DOUBLE VERTICAL STROKE",
    "21fc |LEFT RIGHT ARROW WITH DOUBLE VERTICAL STROKE",
    "21fd |LEFTWARDS OPEN-HEADED ARROW|RIGHTWARDS OPEN-HEADED ARROW|LEFT RIGHT OPEN-HEADED ARROW",
    "2200 |FOR ALL|COMPLEMENT|PARTIAL DIFFERENTIAL|THERE EXISTS|THERE DOES NOT EXIST",
    "2205 |EMPTY SET|INCREMENT|NABLA|ELEMENT OF|NOT AN ELEMENT OF|SMALL ELEMENT OF",
    "220b |CONTAINS AS MEMBER|DOES NOT CONTAIN AS MEMBER|SMALL CONTAINS AS MEMBER|END OF PROOF",
    "220f N-ARY |PRODUCT|COPRODUCT|SUMMATION",
    "2212 |MINUS SIGN|MINUS-OR-PLUS SIGN|DOT PLUS|DIVISION SLASH|SET MINUS|ASTERISK OPERATOR",
    "2218 |RING OPERATOR|BULLET OPERATOR|SQUARE ROOT|CUBE ROOT|FOURTH ROOT|PROPORTIONAL TO",
    "221e |INFINITY|RIGHT ANGLE|ANGLE|MEASURED ANGLE|SPHERICAL ANGLE|DIVIDES|DOES NOT DIVIDE",
    "2225 |PARALLEL TO|NOT PARALLEL TO|LOGICAL AND|LOGICAL OR|INTERSECTION|UNION|INTEGRAL",
    "222c |DOUBLE INTEGRAL|TRIPLE INTEGRAL|CONTOUR INTEGRAL|SURFACE INTEGRAL|VOLUME INTEGRAL",
    "2231 |CLOCKWISE INTEGRAL|CLOCKWISE CONTOUR INTEGRAL|ANTICLOCKWISE CONTOUR INTEGRAL",
    "2234 |THEREFORE|BECAUSE|RATIO|PROPORTION|DOT MINUS|EXCESS|GEOMETRIC PROPORTION",
    "223b |HOMOTHETIC|TILDE OPERATOR|REVERSED TILDE|INVERTED LAZY S|SINE WAVE|WREATH PRODUCT",
    "2241 |NOT TILDE|MINUS TILDE|ASYMPTOTICALLY EQUAL TO|NOT ASYMPTOTICALLY EQUAL TO",
    "2245 APPROXIMATELY |EQUAL TO|BUT NOT ACTUALLY EQUAL TO",
    "2247 |NEITHER APPROXIMATELY NOR ACTUALLY EQUAL TO",
    "2248 |ALMOST EQUAL TO|NOT ALMOST EQUAL TO|ALMOST EQUAL OR EQUAL TO|TRIPLE TILDE",
    "224c |ALL EQUAL TO|EQUIVALENT TO|GEOMETRICALLY EQUIVALENT TO|DIFFERENCE BETWEEN",
    "2250 |APPROACHES THE LIMIT|GEOMETRICALLY EQUAL TO|APPROXIMATELY EQUAL TO OR THE IMAGE OF",
    "2253 |IMAGE OF OR APPROXIMATELY EQUAL TO|COLON EQUALS|EQUALS COLON",
    "2256 |RING IN EQUAL TO|RING EQUAL TO|CORRESPONDS TO|ESTIMATES|EQUIANGULAR TO|STAR EQUALS",
    "225c |DELTA EQUAL TO|EQUAL TO BY DEFINITION|MEASURED BY|QUESTIONED EQUAL TO|NOT EQUAL TO",
    "2261 |IDENTICAL TO|NOT IDENTICAL TO|STRICTLY EQUIVALENT TO|LESS-THAN OR EQUAL TO",
    "2265 |GREATER-THAN OR EQUAL TO|LESS-THAN OVER EQUAL TO|GREATER-THAN OVER EQUAL TO",
    "2268 |LESS-THAN BUT NOT EQUAL TO|GREATER-THAN BUT NOT EQUAL TO|MUCH LESS-THAN",
    "226b |MUCH GREATER-THAN|BETWEEN|NOT EQUIVALENT TO|NOT LESS-THAN|NOT GREATER-THAN",
    "2270 NEITHER |LESS-THAN NOR EQUAL TO|GREATER-THAN NOR EQUAL TO",
    "2272 |LESS-THAN OR EQUIVALENT TO|GREATER-THAN OR EQUIVALENT TO",
    "2274 NEITHER |LESS-THAN NOR EQUIVALENT TO|GREATER-THAN NOR EQUIVALENT TO",
    "2276 |LESS-THAN OR GREATER-THAN|GREATER-THAN OR LESS-THAN",
    "2278 NEITHER |LESS-THAN NOR GREATER-THAN|GREATER-THAN NOR LESS-THAN",
    "227a |PRECEDES|SUCCEEDS|PRECEDES OR EQUAL TO|SUCCEEDS OR EQUAL TO|PRECEDES OR EQUIVALENT TO",
    "227f |SUCCEEDS OR EQUIVALENT TO|DOES NOT PRECEDE|DOES NOT SUCCEED|SUBSET OF|SUPERSET OF",
    "2284 |NOT A SUBSET OF|NOT A SUPERSET OF|SUBSET OF OR EQUAL TO|SUPERSET OF OR EQUAL TO",
    "2288 NEITHER A |SUBSET OF NOR EQUAL TO|SUPERSET OF NOR EQUAL TO",
    "228a |SUBSET OF WITH NOT EQUAL TO|SUPERSET OF WITH NOT EQUAL TO|MULTISET",
    "228d MULTISET |MULTIPLICATION|UNION",
    "228f SQUARE |IMAGE OF|ORIGINAL OF|IMAGE OF OR EQUAL TO|ORIGINAL OF OR EQUAL TO|CAP|CUP",
    "2295 CIRCLED |PLUS|MINUS",
    "2297 CIRCLED |TIMES|DIVISION SLASH|DOT OPERATOR|RING OPERATOR|ASTERISK OPERATOR|EQUALS|DASH",
    "229e SQUARED |PLUS|MINUS|TIMES|DOT OPERATOR",
    "22a2 |RIGHT TACK|LEFT TACK",
    "22a4 |DOWN TACK|UP TACK|ASSERTION|MODELS|TRUE|FORCES|TRIPLE VERTICAL BAR RIGHT TURNSTILE",
    "22ab |DOUBLE VERTICAL BAR DOUBLE RIGHT TURNSTILE|DOES NOT PROVE|NOT TRUE|DOES NOT FORCE",
    "22af |NEGATED DOUBLE VERTICAL BAR DOUBLE RIGHT TURNSTILE|PRECEDES UNDER RELATION",
    "22b1 |SUCCEEDS UNDER RELATION|NORMAL SUBGROUP OF|CONTAINS AS NORMAL SUBGROUP",
    "22b4 |NORMAL SUBGROUP OF OR EQUAL TO|CONTAINS AS NORMAL SUBGROUP OR EQUAL TO",
    "22b6 |ORIGINAL OF|IMAGE OF|MULTIMAP|HERMITIAN CONJUGATE MATRIX|INTERCALATE|XOR|NAND|NOR",
    "22be RIGHT |ANGLE WITH ARC|TRIANGLE",
    "22c0 N-ARY |LOGICAL AND|LOGICAL OR|INTERSECTION|UNION",
    "22c4 |DIAMOND OPERATOR|DOT OPERATOR|STAR OPERATOR|DIVISION TIMES",
    "22c8 |BOWTIE|LEFT NORMAL FACTOR SEMIDIRECT PRODUCT|RIGHT NORMAL FACTOR SEMIDIRECT PRODUCT",
    "22cb |LEFT SEMIDIRECT PRODUCT|RIGHT SEMIDIRECT PRODUCT|REVERSED TILDE EQUALS",
    "22ce CURLY LOGICAL |OR|AND",
    "22d0 DOUBLE |SUBSET|SUPERSET|INTERSECTION|UNION",
    "22d4 |PITCHFORK|EQUAL AND PARALLEL TO|LESS-THAN WITH DOT|GREATER-THAN WITH DOT",
    "22d8 VERY MUCH |LESS-THAN|GREATER-THAN",
    "22da |LESS-THAN EQUAL TO OR GREATER-THAN|GREATER-THAN EQUAL TO OR LESS-THAN",
    "22dc EQUAL TO OR |LESS-THAN|GREATER-THAN|PRECEDES|SUCCEEDS",
    "22e0 DOES NOT |PRECEDE OR EQUAL|SUCCEED OR EQUAL",
    "22e2 NOT SQUARE |IMAGE OF OR EQUAL TO|ORIGINAL OF OR EQUAL TO",
    "22e4 SQUARE |IMAGE OF OR NOT EQUAL TO|ORIGINAL OF OR NOT EQUAL TO",
    "22e6 |LESS-THAN BUT NOT EQUIVALENT TO|GREATER-THAN BUT NOT EQUIVALENT TO",
    "22e8 |PRECEDES BUT NOT EQUIVALENT TO|SUCCEEDS BUT NOT EQUIVALENT TO|NOT NORMAL SUBGROUP OF",
    "22eb |DOES NOT CONTAIN AS NORMAL SUBGROUP|NOT NORMAL SUBGROUP OF OR EQUAL TO",
    "22ed |DOES NOT CONTAIN AS NORMAL SUBGROUP OR EQUAL|VERTICAL ELLIPSIS",
    "22ef |MIDLINE HORIZONTAL ELLIPSIS|UP RIGHT DIAGONAL ELLIPSIS|DOWN RIGHT DIAGONAL ELLIPSIS",
    "22f2 ELEMENT OF WITH |LONG HORIZONTAL STROKE|VERTICAL BAR AT END OF HORIZONTAL STROKE",
    "22f4 |SMALL ELEMENT OF WITH VERTICAL BAR AT END OF HORIZONTAL STROKE",
    "22f5 ELEMENT OF WITH |DOT ABOVE|OVERBAR",
    "22f7 |SMALL ELEMENT OF WITH OVERBAR",
    "22f8 ELEMENT OF WITH |UNDERBAR|TWO HORIZONTAL STROKES",
    "22fa CONTAINS WITH |LONG HORIZONTAL STROKE|VERTICAL BAR AT END OF HORIZONTAL STROKE",
    "22fc |SMALL CONTAINS WITH VERTICAL BAR AT END OF HORIZONTAL STROKE",
    "22fd |CONTAINS WITH OVERBAR|SMALL CONTAINS WITH OVERBAR|Z NOTATION BAG MEMBERSHIP",
    "2300 |DIAMETER SIGN|ELECTRIC ARROW|HOUSE|UP ARROWHEAD|DOWN ARROWHEAD|PROJECTIVE|PERSPECTIVE",
    "2307 |WAVY LINE|LEFT CEILING|RIGHT CEILING|LEFT FLOOR|RIGHT FLOOR|BOTTOM RIGHT CROP",
    "230d |BOTTOM LEFT CROP|TOP RIGHT CROP|TOP LEFT CROP|REVERSED NOT SIGN|SQUARE LOZENGE",
    "2312 |ARC|SEGMENT|SECTOR|TELEPHONE RECORDER|POSITION INDICATOR|VIEWDATA SQUARE",
    "2318 |PLACE OF INTEREST SIGN|TURNED NOT SIGN|WATCH|HOURGLASS|TOP LEFT CORNER",
    "231d |TOP RIGHT CORNER|BOTTOM LEFT CORNER|BOTTOM RIGHT CORNER|TOP HALF INTEGRAL",
    "2321 |BOTTOM HALF INTEGRAL|FROWN|SMILE|UP ARROWHEAD BETWEEN TWO HORIZONTAL BARS",
    "2325 |OPTION KEY|ERASE TO THE RIGHT|X IN A RECTANGLE BOX",
    "2328 |KEYBOARD|LEFT-POINTING ANGLE BRACKET|RIGHT-POINTING ANGLE BRACKET",
    "232b |ERASE TO THE LEFT|BENZENE RING|CYLINDRICITY|ALL AROUND-PROFILE",
    "232f |SYMMETRY|TOTAL RUNOUT|DIMENSION ORIGIN|CONICAL TAPER|SLOPE|COUNTERBORE|COUNTERSINK",
    "2336 APL FUNCTIONAL SYMBOL |I-BEAM|SQUISH QUAD",
    "2338 APL FUNCTIONAL SYMBOL QUAD |EQUAL|DIVIDE|DIAMOND|JOT|CIRCLE",
    "233d APL FUNCTIONAL SYMBOL |CIRCLE STILE|CIRCLE JOT|SLASH BAR|BACKSLASH BAR|QUAD SLASH",
    "2342 APL FUNCTIONAL SYMBOL |QUAD BACKSLASH|QUAD LESS-THAN|QUAD GREATER-THAN|LEFTWARDS VANE",
    "2346 APL FUNCTIONAL SYMBOL |RIGHTWARDS VANE|QUAD LEFTWARDS ARROW|QUAD RIGHTWARDS ARROW",
    "2349 APL FUNCTIONAL SYMBOL |CIRCLE BACKSLASH|DOWN TACK UNDERBAR|DELTA STILE|QUAD DOWN CARET",
    "234d APL FUNCTIONAL SYMBOL |QUAD DELTA|DOWN TACK JOT|UPWARDS VANE|QUAD UPWARDS ARROW",
    "2351 APL FUNCTIONAL SYMBOL |UP TACK OVERBAR|DEL STILE|QUAD UP CARET|QUAD DEL",
    "2355 APL FUNCTIONAL SYMBOL |UP TACK JOT|DOWNWARDS VANE|QUAD DOWNWARDS ARROW|QUOTE UNDERBAR",
    "2359 APL FUNCTIONAL SYMBOL |DELTA UNDERBAR|DIAMOND UNDERBAR|JOT UNDERBAR|CIRCLE UNDERBAR",
    "235d APL FUNCTIONAL SYMBOL |UP SHOE JOT|QUOTE QUAD|CIRCLE STAR|QUAD COLON|UP TACK DIAERESIS",
    "2362 APL FUNCTIONAL SYMBOL |DEL DIAERESIS|STAR DIAERESIS|JOT DIAERESIS|CIRCLE DIAERESIS",
    "2366 APL FUNCTIONAL SYMBOL |DOWN SHOE STILE|LEFT SHOE STILE|TILDE DIAERESIS",
    "2369 APL FUNCTIONAL SYMBOL |GREATER-THAN DIAERESIS|COMMA BAR|DEL TILDE|ZILDE",
    "236d APL FUNCTIONAL SYMBOL |STILE TILDE|SEMICOLON UNDERBAR|QUAD NOT EQUAL|QUAD QUESTION",
    "2371 APL FUNCTIONAL SYMBOL |DOWN CARET TILDE|UP CARET TILDE|IOTA|RHO|OMEGA|ALPHA UNDERBAR",
    "2377 APL FUNCTIONAL SYMBOL |EPSILON UNDERBAR|IOTA UNDERBAR|OMEGA UNDERBAR|ALPHA",
    "237b |NOT CHECK MARK|RIGHT ANGLE WITH DOWNWARDS ZIGZAG ARROW",
    "237d |SHOULDERED OPEN BOX|BELL SYMBOL|VERTICAL LINE WITH MIDDLE DOT",
    "2380 |INSERTION SYMBOL|CONTINUOUS UNDERLINE SYMBOL|DISCONTINUOUS UNDERLINE SYMBOL",
    "2383 |EMPHASIS SYMBOL|COMPOSITION SYMBOL|WHITE SQUARE WITH CENTRE VERTICAL LINE",
    "2386 |ENTER SYMBOL|ALTERNATIVE KEY SYMBOL|HELM SYMBOL",
    "2389 CIRCLED |HORIZONTAL BAR WITH NOTCH|TRIANGLE DOWN",
    "238b |BROKEN CIRCLE WITH NORTHWEST ARROW|UNDO SYMBOL|MONOSTABLE SYMBOL|HYSTERESIS SYMBOL",
    "238f OPEN-CIRCUIT-OUTPUT |H-TYPE SYMBOL|L-TYPE SYMBOL",
    "2391 |PASSIVE-PULL-DOWN-OUTPUT SYMBOL",
    "2392 |PASSIVE-PULL-UP-OUTPUT SYMBOL|DIRECT CURRENT SYMBOL FORM TWO",
    "2394 |SOFTWARE-FUNCTION SYMBOL|APL FUNCTIONAL SYMBOL QUAD|DECIMAL SEPARATOR KEY SYMBOL",
    "2397 |PREVIOUS PAGE|NEXT PAGE|PRINT SCREEN SYMBOL|CLEAR SCREEN SYMBOL",
    "239b LEFT PARENTHESIS |UPPER HOOK|EXTENSION|LOWER HOOK",
    "239e RIGHT PARENTHESIS |UPPER HOOK|EXTENSION|LOWER HOOK",
    "23a1 LEFT SQUARE BRACKET |UPPER CORNER|EXTENSION|LOWER CORNER",
    "23a4 RIGHT SQUARE BRACKET |UPPER CORNER|EXTENSION|LOWER CORNER",
    "23a7 LEFT CURLY BRACKET |UPPER HOOK|MIDDLE PIECE|LOWER HOOK",
    "23aa |CURLY BRACKET EXTENSION",
    "23ab RIGHT CURLY BRACKET |UPPER HOOK|MIDDLE PIECE|LOWER HOOK",
    "23ae |INTEGRAL EXTENSION",
    "23af |HORIZONTAL LINE EXTENSION|UPPER LEFT OR LOWER RIGHT CURLY BRACKET SECTION",
    "23b1 |UPPER RIGHT OR LOWER LEFT CURLY BRACKET SECTION",
    "23b2 |SUMMATION TOP|SUMMATION BOTTOM|TOP SQUARE BRACKET",
    "23b5 BOTTOM SQUARE |BRACKET|BRACKET OVER TOP SQUARE BRACKET",
    "23b7 |RADICAL SYMBOL BOTTOM|LEFT VERTICAL BOX LINE|RIGHT VERTICAL BOX LINE",
    "23ba HORIZONTAL SCAN |LINE-1|LINE-3|LINE-7|LINE-9",
    "23be DENTISTRY SYMBOL LIGHT VERTICAL |AND TOP RIGHT|AND BOTTOM RIGHT|WITH CIRCLE",
    "23c1 DENTISTRY SYMBOL LIGHT |DOWN AND HORIZONTAL WITH CIRCLE|UP AND HORIZONTAL WITH CIRCLE",
    "23c3 DENTISTRY SYMBOL LIGHT |VERTICAL WITH TRIANGLE|DOWN AND HORIZONTAL WITH TRIANGLE",
    "23c5 DENTISTRY SYMBOL LIGHT |UP AND HORIZONTAL WITH TRIANGLE|VERTICAL AND WAVE",
    "23c7 DENTISTRY SYMBOL LIGHT |DOWN AND HORIZONTAL WITH WAVE|UP AND HORIZONTAL WITH WAVE",
    "23c9 DENTISTRY SYMBOL LIGHT |DOWN AND HORIZONTAL|UP AND HORIZONTAL",
    "23cb DENTISTRY SYMBOL LIGHT VERTICAL AND |TOP LEFT|BOTTOM LEFT",
    "23cd |SQUARE FOOT|RETURN SYMBOL|EJECT SYMBOL|VERTICAL LINE EXTENSION",
    "23d1 METRICAL |BREVE|LONG OVER SHORT|SHORT OVER LONG|LONG OVER TWO SHORTS",
    "23d5 METRICAL |TWO SHORTS OVER LONG|TWO SHORTS JOINED|TRISEME|TETRASEME|PENTASEME",
    "23da |EARTH GROUND|FUSE|TOP PARENTHESIS|BOTTOM PARENTHESIS|TOP CURLY BRACKET",
    "23df |BOTTOM CURLY BRACKET|TOP TORTOISE SHELL BRACKET|BOTTOM TORTOISE SHELL BRACKET",
    "23e2 |WHITE TRAPEZIUM|BENZENE RING WITH CIRCLE|STRAIGHTNESS|FLATNESS|AC CURRENT",
    "23e7 |ELECTRICAL INTERSECTION|DECIMAL EXPONENT SYMBOL|BLACK RIGHT-POINTING DOUBLE TRIANGLE",
    "23ea BLACK |LEFT-POINTING DOUBLE TRIANGLE|UP-POINTING DOUBLE TRIANGLE",
    "23ec BLACK |DOWN-POINTING DOUBLE TRIANGLE|RIGHT-POINTING DOUBLE TRIANGLE WITH VERTICAL BAR",
    "23ee |BLACK LEFT-POINTING DOUBLE TRIANGLE WITH VERTICAL BAR",
    "23ef |BLACK RIGHT-POINTING TRIANGLE WITH DOUBLE VERTICAL BAR|ALARM CLOCK",
    "23f1 |STOPWATCH|TIMER CLOCK|HOURGLASS WITH FLOWING SAND|BLACK MEDIUM LEFT-POINTING TRIANGLE",
    "23f5 BLACK MEDIUM |RIGHT-POINTING TRIANGLE|UP-POINTING TRIANGLE|DOWN-POINTING TRIANGLE",
    "23f8 |DOUBLE VERTICAL BAR|BLACK SQUARE FOR STOP|BLACK CIRCLE FOR RECORD",
    "23fb POWER |SYMBOL|ON-OFF SYMBOL|ON SYMBOL|SLEEP SYMBOL",
    "23ff |OBSERVER EYE SYMBOL|SYMBOL FOR NULL|SYMBOL FOR START OF HEADING",
    "2402 SYMBOL FOR |START OF TEXT|END OF TEXT|END OF TRANSMISSION|ENQUIRY|ACKNOWLEDGE",
    "2407 SYMBOL FOR |BELL|BACKSPACE|HORIZONTAL TABULATION|LINE FEED|VERTICAL TABULATION",
    "240c SYMBOL FOR |FORM FEED|CARRIAGE RETURN|SHIFT OUT|SHIFT IN|DATA LINK ESCAPE",
    "2411 SYMBOL FOR DEVICE CONTROL |ONE|TWO|THREE|FOUR",
    "2415 SYMBOL FOR |NEGATIVE ACKNOWLEDGE|SYNCHRONOUS IDLE|END OF TRANSMISSION BLOCK",
    "2418 SYMBOL FOR |CANCEL|END OF MEDIUM|SUBSTITUTE|ESCAPE|FILE SEPARATOR",
    "241d SYMBOL FOR |GROUP SEPARATOR|RECORD SEPARATOR|UNIT SEPARATOR|SPACE|DELETE",
    "2422 |BLANK SYMBOL|OPEN BOX",
    "2424 SYMBOL FOR |NEWLINE|DELETE FORM TWO|SUBSTITUTE FORM TWO",
    "2440 OCR |HOOK|CHAIR|FORK|INVERTED FORK|BELT BUCKLE|BOW TIE|BRANCH BANK IDENTIFICATION",
    "2447 OCR |AMOUNT OF CHECK|DASH|CUSTOMER ACCOUNT NUMBER|DOUBLE BACKSLASH",
    "2460 CIRCLED DIGIT |ONE|TWO|THREE|FOUR|FIVE|SIX|SEVEN|EIGHT|NINE",
    "2469 CIRCLED NUMBER |TEN|ELEVEN|TWELVE",
    "246c CIRCLED NUMBER |THIRTEEN|FOURTEEN|FIFTEEN|SIXTEEN|SEVENTEEN|EIGHTEEN|NINETEEN|TWENTY",
    "2474 PARENTHESIZED DIGIT |ONE|TWO|THREE|FOUR|FIVE|SIX|SEVEN|EIGHT|NINE",
    "247d PARENTHESIZED NUMBER |TEN|ELEVEN|TWELVE|THIRTEEN",
    "2481 PARENTHESIZED NUMBER |FOURTEEN|FIFTEEN|SIXTEEN|SEVENTEEN|EIGHTEEN|NINETEEN|TWENTY",
    "2488 DIGIT |ONE FULL STOP|TWO FULL STOP|THREE FULL STOP|FOUR FULL STOP",
    "248c DIGIT |FIVE FULL STOP|SIX FULL STOP|SEVEN FULL STOP|EIGHT FULL STOP|NINE FULL STOP",
    "2491 NUMBER |TEN FULL STOP|ELEVEN FULL STOP|TWELVE FULL STOP",
    "2494 NUMBER |THIRTEEN FULL STOP|FOURTEEN FULL STOP|FIFTEEN FULL STOP|SIXTEEN FULL STOP",
    "2498 NUMBER |SEVENTEEN FULL STOP|EIGHTEEN FULL STOP|NINETEEN FULL STOP|TWENTY FULL STOP",
    "249c PARENTHESIZED LATIN SMALL LETTER |A|B|C|D|E|F|G|H|I|J|K|L|M|N|O|P|Q|R|S|T|U|V|W|X|Y|Z",
    "24b6 CIRCLED LATIN CAPITAL LETTER |A|B|C|D|E|F|G|H|I|J|K|L|M|N|O|P|Q|R|S|T|U|V|W|X|Y|Z",
    "24d0 CIRCLED LATIN SMALL LETTER |A|B|C|D|E|F|G|H|I|J|K|L|M|N|O|P|Q|R|S|T|U|V|W|X|Y|Z",
    "24ea |CIRCLED DIGIT ZERO",
    "24eb NEGATIVE CIRCLED NUMBER |ELEVEN|TWELVE|THIRTEEN",
    "24ee NEGATIVE CIRCLED NUMBER |FOURTEEN|FIFTEEN|SIXTEEN|SEVENTEEN|EIGHTEEN|NINETEEN|TWENTY",
    "24f5 DOUBLE CIRCLED DIGIT |ONE|TWO|THREE|FOUR|FIVE|SIX|SEVEN|EIGHT|NINE",
    "24fe |DOUBLE CIRCLED NUMBER TEN|NEGATIVE CIRCLED DIGIT ZERO",
    "2500 BOX DRAWINGS |LIGHT HORIZONTAL|HEAVY HORIZONTAL|LIGHT VERTICAL",
    "2503 BOX DRAWINGS |HEAVY VERTICAL|LIGHT TRIPLE DASH HORIZONTAL|HEAVY TRIPLE DASH HORIZONTAL",
    "2506 BOX DRAWINGS |LIGHT TRIPLE DASH VERTICAL|HEAVY TRIPLE DASH VERTICAL",
    "2508 BOX DRAWINGS |LIGHT QUADRUPLE DASH HORIZONTAL|HEAVY QUADRUPLE DASH HORIZONTAL",
    "250a BOX DRAWINGS |LIGHT QUADRUPLE DASH VERTICAL|HEAVY QUADRUPLE DASH VERTICAL",
    "250c BOX DRAWINGS |LIGHT DOWN AND RIGHT|DOWN LIGHT AND RIGHT HEAVY",
    "250e BOX DRAWINGS |DOWN HEAVY AND RIGHT LIGHT|HEAVY DOWN AND RIGHT|LIGHT DOWN AND LEFT",
    "2511 BOX DRAWINGS |DOWN LIGHT AND LEFT HEAVY|DOWN HEAVY AND LEFT LIGHT|HEAVY DOWN AND LEFT",
    "2514 BOX DRAWINGS |LIGHT UP AND RIGHT|UP LIGHT AND RIGHT HEAVY|UP HEAVY AND RIGHT LIGHT",
    "2517 BOX DRAWINGS |HEAVY UP AND RIGHT|LIGHT UP AND LEFT|UP LIGHT AND LEFT HEAVY",
    "251a BOX DRAWINGS |UP HEAVY AND LEFT LIGHT|HEAVY UP AND LEFT|LIGHT VERTICAL AND RIGHT",
    "251d BOX DRAWINGS |VERTICAL LIGHT AND RIGHT HEAVY|UP HEAVY AND RIGHT DOWN LIGHT",
    "251f BOX DRAWINGS |DOWN HEAVY AND RIGHT UP LIGHT|VERTICAL HEAVY AND RIGHT LIGHT",
    "2521 BOX DRAWINGS |DOWN LIGHT AND RIGHT UP HEAVY|UP LIGHT AND RIGHT DOWN HEAVY",
    "2523 BOX DRAWINGS |HEAVY VERTICAL AND RIGHT|LIGHT VERTICAL AND LEFT",
    "2525 BOX DRAWINGS |VERTICAL LIGHT AND LEFT HEAVY|UP HEAVY AND LEFT DOWN LIGHT",
    "2527 BOX DRAWINGS |DOWN HEAVY AND LEFT UP LIGHT|VERTICAL HEAVY AND LEFT LIGHT",
    "2529 BOX DRAWINGS |DOWN LIGHT AND LEFT UP HEAVY|UP LIGHT AND LEFT DOWN HEAVY",
    "252b BOX DRAWINGS |HEAVY VERTICAL AND LEFT|LIGHT DOWN AND HORIZONTAL",
    "252d BOX DRAWINGS |LEFT HEAVY AND RIGHT DOWN LIGHT|RIGHT HEAVY AND LEFT DOWN LIGHT",
    "252f BOX DRAWINGS DOWN |LIGHT AND HORIZONTAL HEAVY|HEAVY AND HORIZONTAL LIGHT",
    "2531 BOX DRAWINGS |RIGHT LIGHT AND LEFT DOWN HEAVY|LEFT LIGHT AND RIGHT DOWN HEAVY",
    "2533 BOX DRAWINGS |HEAVY DOWN AND HORIZONTAL|LIGHT UP AND HORIZONTAL",
    "2535 BOX DRAWINGS |LEFT HEAVY AND RIGHT UP LIGHT|RIGHT HEAVY AND LEFT UP LIGHT",
    "2537 BOX DRAWINGS UP |LIGHT AND HORIZONTAL HEAVY|HEAVY AND HORIZONTAL LIGHT",
    "2539 BOX DRAWINGS |RIGHT LIGHT AND LEFT UP HEAVY|LEFT LIGHT AND RIGHT UP HEAVY",
    "253b BOX DRAWINGS |HEAVY UP AND HORIZONTAL|LIGHT VERTICAL AND HORIZONTAL",
    "253d BOX DRAWINGS |LEFT HEAVY AND RIGHT VERTICAL LIGHT|RIGHT HEAVY AND LEFT VERTICAL LIGHT",
    "253f BOX DRAWINGS |VERTICAL LIGHT AND HORIZONTAL HEAVY|UP HEAVY AND DOWN HORIZONTAL LIGHT",
    "2541 BOX DRAWINGS |DOWN HEAVY AND UP HORIZONTAL LIGHT|VERTICAL HEAVY AND HORIZONTAL LIGHT",
    "2543 BOX DRAWINGS |LEFT UP HEAVY AND RIGHT DOWN LIGHT|RIGHT UP HEAVY AND LEFT DOWN LIGHT",
    "2545 BOX DRAWINGS |LEFT DOWN HEAVY AND RIGHT UP LIGHT|RIGHT DOWN HEAVY AND LEFT UP LIGHT",
    "2547 BOX DRAWINGS |DOWN LIGHT AND UP HORIZONTAL HEAVY|UP LIGHT AND DOWN HORIZONTAL HEAVY",
    "2549 BOX DRAWINGS |RIGHT LIGHT AND LEFT VERTICAL HEAVY|LEFT LIGHT AND RIGHT VERTICAL HEAVY",
    "254b BOX DRAWINGS |HEAVY VERTICAL AND HORIZONTAL|LIGHT DOUBLE DASH HORIZONTAL",
    "254d BOX DRAWINGS |HEAVY DOUBLE DASH HORIZONTAL|LIGHT DOUBLE DASH VERTICAL",
    "254f BOX DRAWINGS |HEAVY DOUBLE DASH VERTICAL|DOUBLE HORIZONTAL|DOUBLE VERTICAL",
    "2552 BOX DRAWINGS DOWN |SINGLE AND RIGHT DOUBLE|DOUBLE AND RIGHT SINGLE",
    "2554 BOX DRAWINGS |DOUBLE DOWN AND RIGHT|DOWN SINGLE AND LEFT DOUBLE",
    "2556 BOX DRAWINGS |DOWN DOUBLE AND LEFT SINGLE|DOUBLE DOWN AND LEFT",
    "2558 BOX DRAWINGS UP |SINGLE AND RIGHT DOUBLE|DOUBLE AND RIGHT SINGLE",
    "255a BOX DRAWINGS |DOUBLE UP AND RIGHT|UP SINGLE AND LEFT DOUBLE|UP DOUBLE AND LEFT SINGLE",
    "255d BOX DRAWINGS |DOUBLE UP AND LEFT|VERTICAL SINGLE AND RIGHT DOUBLE",
    "255f BOX DRAWINGS |VERTICAL DOUBLE AND RIGHT SINGLE|DOUBLE VERTICAL AND RIGHT",
    "2561 BOX DRAWINGS VERTICAL |SINGLE AND LEFT DOUBLE|DOUBLE AND LEFT SINGLE",
    "2563 BOX DRAWINGS |DOUBLE VERTICAL AND LEFT|DOWN SINGLE AND HORIZONTAL DOUBLE",
    "2565 BOX DRAWINGS |DOWN DOUBLE AND HORIZONTAL SINGLE|DOUBLE DOWN AND HORIZONTAL",
    "2567 BOX DRAWINGS UP |SINGLE AND HORIZONTAL DOUBLE|DOUBLE AND HORIZONTAL SINGLE",
    "2569 BOX DRAWINGS |DOUBLE UP AND HORIZONTAL|VERTICAL SINGLE AND HORIZONTAL DOUBLE",
    "256b BOX DRAWINGS |VERTICAL DOUBLE AND HORIZONTAL SINGLE|DOUBLE VERTICAL AND HORIZONTAL",
    "256d BOX DRAWINGS LIGHT ARC |DOWN AND RIGHT|DOWN AND LEFT|UP AND LEFT|UP AND RIGHT",
    "2571 BOX DRAWINGS LIGHT DIAGONAL |UPPER RIGHT TO LOWER LEFT|UPPER LEFT TO LOWER RIGHT|CROSS",
    "2574 BOX DRAWINGS LIGHT |LEFT|UP|RIGHT|DOWN",
    "2578 BOX DRAWINGS HEAVY |LEFT|UP|RIGHT|DOWN",
    "257c BOX DRAWINGS LIGHT |LEFT AND HEAVY RIGHT|UP AND HEAVY DOWN",
    "257e BOX DRAWINGS HEAVY |LEFT AND LIGHT RIGHT|UP AND LIGHT DOWN",
    "2580 |UPPER HALF BLOCK|LOWER ONE EIGHTH BLOCK|LOWER ONE QUARTER BLOCK",
    "2583 LOWER |THREE EIGHTHS BLOCK|HALF BLOCK|FIVE EIGHTHS BLOCK|THREE QUARTERS BLOCK",
    "2587 |LOWER SEVEN EIGHTHS BLOCK|FULL BLOCK|LEFT SEVEN EIGHTHS BLOCK",
    "258a LEFT |THREE QUARTERS BLOCK|FIVE EIGHTHS BLOCK|HALF BLOCK|THREE EIGHTHS BLOCK",
    "258e |LEFT ONE QUARTER BLOCK|LEFT ONE EIGHTH BLOCK|RIGHT HALF BLOCK",
    "2591 |LIGHT SHADE|MEDIUM SHADE|DARK SHADE|UPPER ONE EIGHTH BLOCK|RIGHT ONE EIGHTH BLOCK",
    "2596 QUADRANT |LOWER LEFT|LOWER RIGHT|UPPER LEFT",
    "2599 QUADRANT UPPER LEFT AND LOWER |LEFT AND LOWER RIGHT|RIGHT",
    "259b QUADRANT UPPER LEFT AND UPPER RIGHT AND LOWER |LEFT|RIGHT",
    "259d QUADRANT UPPER |RIGHT|RIGHT AND LOWER LEFT|RIGHT AND LOWER LEFT AND LOWER RIGHT",
    "25a0 |BLACK SQUARE|WHITE SQUARE",
    "25a2 WHITE SQUARE |WITH ROUNDED CORNERS|CONTAINING BLACK SMALL SQUARE",
    "25a4 SQUARE WITH |HORIZONTAL FILL|VERTICAL FILL|ORTHOGONAL CROSSHATCH FILL",
    "25a7 SQUARE WITH UPPER |LEFT TO LOWER RIGHT FILL|RIGHT TO LOWER LEFT FILL",
    "25a9 |SQUARE WITH DIAGONAL CROSSHATCH FILL",
    "25aa |BLACK SMALL SQUARE|WHITE SMALL SQUARE|BLACK RECTANGLE",
    "25ad |WHITE RECTANGLE|BLACK VERTICAL RECTANGLE|WHITE VERTICAL RECTANGLE|BLACK PARALLELOGRAM",
    "25b1 |WHITE PARALLELOGRAM|BLACK UP-POINTING TRIANGLE|WHITE UP-POINTING TRIANGLE",
    "25b4 |BLACK UP-POINTING SMALL TRIANGLE|WHITE UP-POINTING SMALL TRIANGLE",
    "25b6 |BLACK RIGHT-POINTING TRIANGLE|WHITE RIGHT-POINTING TRIANGLE",
    "25b8 |BLACK RIGHT-POINTING SMALL TRIANGLE|WHITE RIGHT-POINTING SMALL TRIANGLE",
    "25ba |BLACK RIGHT-POINTING POINTER|WHITE RIGHT-POINTING POINTER",
    "25bc |BLACK DOWN-POINTING TRIANGLE|WHITE DOWN-POINTING TRIANGLE",
    "25be |BLACK DOWN-POINTING SMALL TRIANGLE|WHITE DOWN-POINTING SMALL TRIANGLE",
    "25c0 |BLACK LEFT-POINTING TRIANGLE|WHITE LEFT-POINTING TRIANGLE",
    "25c2 |BLACK LEFT-POINTING SMALL TRIANGLE|WHITE LEFT-POINTING SMALL TRIANGLE",
    "25c4 |BLACK LEFT-POINTING POINTER|WHITE LEFT-POINTING POINTER",
    "25c6 |BLACK DIAMOND|WHITE DIAMOND|WHITE DIAMOND CONTAINING BLACK SMALL DIAMOND|FISHEYE",
    "25ca |LOZENGE|WHITE CIRCLE|DOTTED CIRCLE|CIRCLE WITH VERTICAL FILL|BULLSEYE|BLACK CIRCLE",
    "25d0 CIRCLE WITH |LEFT HALF BLACK|RIGHT HALF BLACK|LOWER HALF BLACK|UPPER HALF BLACK",
    "25d4 CIRCLE WITH |UPPER RIGHT QUADRANT BLACK|ALL BUT UPPER LEFT QUADRANT BLACK",
    "25d6 |LEFT HALF BLACK CIRCLE|RIGHT HALF BLACK CIRCLE|INVERSE BULLET",
    "25d9 |INVERSE WHITE CIRCLE|UPPER HALF INVERSE WHITE CIRCLE|LOWER HALF INVERSE WHITE CIRCLE",
    "25dc UPPER |LEFT QUADRANT CIRCULAR ARC|RIGHT QUADRANT CIRCULAR ARC",
    "25de LOWER |RIGHT QUADRANT CIRCULAR ARC|LEFT QUADRANT CIRCULAR ARC",
    "25e0 |UPPER HALF CIRCLE|LOWER HALF CIRCLE|BLACK LOWER RIGHT TRIANGLE",
    "25e3 BLACK |LOWER LEFT TRIANGLE|UPPER LEFT TRIANGLE|UPPER RIGHT TRIANGLE",
    "25e6 |WHITE BULLET|SQUARE WITH LEFT HALF BLACK|SQUARE WITH RIGHT HALF BLACK",
    "25e9 SQUARE WITH |UPPER LEFT DIAGONAL HALF BLACK|LOWER RIGHT DIAGONAL HALF BLACK",
    "25eb WHITE |SQUARE WITH VERTICAL BISECTING LINE|UP-POINTING TRIANGLE WITH DOT",
    "25ed UP-POINTING TRIANGLE WITH |LEFT HALF BLACK|RIGHT HALF BLACK",
    "25ef |LARGE CIRCLE|WHITE SQUARE WITH UPPER LEFT QUADRANT",
    "25f1 WHITE SQUARE WITH |LOWER LEFT QUADRANT|LOWER RIGHT QUADRANT|UPPER RIGHT QUADRANT",
    "25f4 WHITE CIRCLE WITH |UPPER LEFT QUADRANT|LOWER LEFT QUADRANT|LOWER RIGHT QUADRANT",
    "25f7 |WHITE CIRCLE WITH UPPER RIGHT QUADRANT|UPPER LEFT TRIANGLE|UPPER RIGHT TRIANGLE",
    "25fa |LOWER LEFT TRIANGLE|WHITE MEDIUM SQUARE|BLACK MEDIUM SQUARE|WHITE MEDIUM SMALL SQUARE",
    "25fe |BLACK MEDIUM SMALL SQUARE|LOWER RIGHT TRIANGLE|BLACK SUN WITH RAYS|CLOUD|UMBRELLA",
    "2603 |SNOWMAN|COMET|BLACK STAR|WHITE STAR|LIGHTNING|THUNDERSTORM|SUN|ASCENDING NODE",
    "260b |DESCENDING NODE|CONJUNCTION|OPPOSITION|BLACK TELEPHONE|WHITE TELEPHONE|BALLOT BOX",
    "2611 BALLOT BOX WITH |CHECK|X",
    "2613 |SALTIRE|UMBRELLA WITH RAIN DROPS|HOT BEVERAGE",
    "2616 |WHITE SHOGI PIECE|BLACK SHOGI PIECE|SHAMROCK|REVERSED ROTATED FLORAL HEART BULLET",
    "261a BLACK |LEFT POINTING INDEX|RIGHT POINTING INDEX",
    "261c WHITE |LEFT POINTING INDEX|UP POINTING INDEX|RIGHT POINTING INDEX|DOWN POINTING INDEX",
    "2620 |SKULL AND CROSSBONES|CAUTION SIGN|RADIOACTIVE SIGN|BIOHAZARD SIGN",
    "2624 |CADUCEUS|ANKH|ORTHODOX CROSS|CHI RHO|CROSS OF LORRAINE|CROSS OF JERUSALEM",
    "262a |STAR AND CRESCENT|FARSI SYMBOL|ADI SHAKTI|HAMMER AND SICKLE|PEACE SYMBOL|YIN YANG",
    "2630 TRIGRAM FOR |HEAVEN|LAKE|FIRE|THUNDER|WIND|WATER|MOUNTAIN|EARTH",
    "2638 |WHEEL OF DHARMA|WHITE FROWNING FACE|WHITE SMILING FACE",
    "263b |BLACK SMILING FACE|WHITE SUN WITH RAYS|FIRST QUARTER MOON|LAST QUARTER MOON",
    "263f |MERCURY|FEMALE SIGN|EARTH|MALE SIGN|JUPITER|SATURN|URANUS|NEPTUNE|PLUTO|ARIES",
    "2649 |TAURUS|GEMINI|CANCER|LEO|VIRGO|LIBRA|SCORPIUS|SAGITTARIUS|CAPRICORN|AQUARIUS|PISCES",
    "2654 WHITE CHESS |KING|QUEEN|ROOK|BISHOP|KNIGHT|PAWN",
    "265a BLACK CHESS |KING|QUEEN|ROOK|BISHOP|KNIGHT|PAWN",
    "2660 |BLACK SPADE SUIT|WHITE HEART SUIT|WHITE DIAMOND SUIT",
    "2663 |BLACK CLUB SUIT|WHITE SPADE SUIT|BLACK HEART SUIT|BLACK DIAMOND SUIT|WHITE CLUB SUIT",
    "2668 |HOT SPRINGS|QUARTER NOTE|EIGHTH NOTE|BEAMED EIGHTH NOTES|BEAMED SIXTEENTH NOTES",
    "266d |MUSIC FLAT SIGN|MUSIC NATURAL SIGN|MUSIC SHARP SIGN|WEST SYRIAC CROSS",
    "2671 |EAST SYRIAC CROSS|UNIVERSAL RECYCLING SYMBOL|RECYCLING SYMBOL FOR TYPE-1 PLASTICS",
    "2674 RECYCLING SYMBOL FOR |TYPE-2 PLASTICS|TYPE-3 PLASTICS|TYPE-4 PLASTICS|TYPE-5 PLASTICS",
    "2678 RECYCLING SYMBOL FOR |TYPE-6 PLASTICS|TYPE-7 PLASTICS|GENERIC MATERIALS",
    "267b |BLACK UNIVERSAL RECYCLING SYMBOL|RECYCLED PAPER SYMBOL",
    "267d |PARTIALLY-RECYCLED PAPER SYMBOL|PERMANENT PAPER SIGN|WHEELCHAIR SYMBOL",
    "2680 DIE |FACE-1|FACE-2|FACE-3|FACE-4|FACE-5|FACE-6",
    "2686 WHITE CIRCLE WITH |DOT RIGHT|TWO DOTS",
    "2688 BLACK CIRCLE WITH |WHITE DOT RIGHT|TWO WHITE DOTS",
    "268a MONOGRAM FOR |YANG|YIN",
    "268c DIGRAM FOR |GREATER YANG|LESSER YIN|LESSER YANG|GREATER YIN",
    "2690 |WHITE FLAG",
    "2691 |BLACK FLAG|HAMMER AND PICK|ANCHOR|CROSSED SWORDS|STAFF OF AESCULAPIUS|SCALES",
    "2697 |ALEMBIC|FLOWER|GEAR|STAFF OF HERMES|ATOM SYMBOL|FLEUR-DE-LIS|OUTLINED WHITE STAR",
    "269e THREE LINES CONVERGING |RIGHT|LEFT",
    "26a0 |WARNING SIGN|HIGH VOLTAGE SIGN|DOUBLED FEMALE SIGN",
    "26a3 |DOUBLED MALE SIGN|INTERLOCKED FEMALE AND MALE SIGN|MALE AND FEMALE SIGN",
    "26a6 MALE WITH STROKE |SIGN|AND MALE AND FEMALE SIGN",
    "26a8 |VERTICAL MALE WITH STROKE SIGN|HORIZONTAL MALE WITH STROKE SIGN",
    "26aa MEDIUM |WHITE CIRCLE|BLACK CIRCLE|SMALL WHITE CIRCLE",
    "26ad |MARRIAGE SYMBOL|DIVORCE SYMBOL|UNMARRIED PARTNERSHIP SYMBOL",
    "26b0 |COFFIN|FUNERAL URN|NEUTER|CERES|PALLAS|JUNO|VESTA|CHIRON|BLACK MOON LILITH",
    "26b9 |SEXTILE|SEMISEXTILE|QUINCUNX|SESQUIQUADRATE|SOCCER BALL|BASEBALL|SQUARED KEY",
    "26c0 WHITE DRAUGHTS |MAN|KING",
    "26c2 BLACK DRAUGHTS |MAN|KING",
    "26c4 |SNOWMAN WITHOUT SNOW|SUN BEHIND CLOUD|RAIN|BLACK SNOWMAN|THUNDER CLOUD AND RAIN",
    "26c9 TURNED |WHITE SHOGI PIECE|BLACK SHOGI PIECE",
    "26cb |WHITE DIAMOND IN SQUARE|CROSSING LANES|DISABLED CAR",
    "26ce |OPHIUCHUS|PICK|CAR SLIDING|HELMET WITH WHITE CROSS|CIRCLED CROSSING LANES",
    "26d3 |CHAINS|NO ENTRY|ALTERNATE ONE-WAY LEFT WAY TRAFFIC|BLACK TWO-WAY LEFT WAY TRAFFIC",
    "26d7 |WHITE TWO-WAY LEFT WAY TRAFFIC|BLACK LEFT LANE MERGE|WHITE LEFT LANE MERGE",
    "26da |DRIVE SLOW SIGN|HEAVY WHITE DOWN-POINTING TRIANGLE|LEFT CLOSED ENTRY",
    "26dd |SQUARED SALTIRE|FALLING DIAGONAL IN WHITE CIRCLE IN BLACK SQUARE|BLACK TRUCK",
    "26e0 RESTRICTED LEFT |ENTRY-1|ENTRY-2",
    "26e2 |ASTRONOMICAL SYMBOL FOR URANUS|HEAVY CIRCLE WITH STROKE AND TWO DOTS ABOVE",
    "26e4 |PENTAGRAM|RIGHT-HANDED INTERLACED PENTAGRAM|LEFT-HANDED INTERLACED PENTAGRAM",
    "26e7 |INVERTED PENTAGRAM|BLACK CROSS ON SHIELD|SHINTO SHRINE|CHURCH",
    "26eb |CASTLE|HISTORIC SITE|GEAR WITHOUT HUB|GEAR WITH HANDLES|MAP SYMBOL FOR LIGHTHOUSE",
    "26f0 |MOUNTAIN|UMBRELLA ON GROUND|FOUNTAIN|FLAG IN HOLE|FERRY|SAILBOAT|SQUARE FOUR CORNERS",
    "26f7 |SKIER|ICE SKATE|PERSON WITH BALL|TENT|JAPANESE BANK SYMBOL|HEADSTONE GRAVEYARD SYMBOL",
    "26fd |FUEL PUMP|CUP ON BLACK SQUARE|WHITE FLAG WITH HORIZONTAL MIDDLE BLACK STRIPE",
    "2700 |BLACK SAFETY SCISSORS|UPPER BLADE SCISSORS|BLACK SCISSORS|LOWER BLADE SCISSORS",
    "2704 |WHITE SCISSORS|WHITE HEAVY CHECK MARK|TELEPHONE LOCATION SIGN|TAPE DRIVE|AIRPLANE",
    "2709 |ENVELOPE|RAISED FIST|RAISED HAND|VICTORY HAND|WRITING HAND|LOWER RIGHT PENCIL|PENCIL",
    "2710 |UPPER RIGHT PENCIL|WHITE NIB|BLACK NIB|CHECK MARK|HEAVY CHECK MARK|MULTIPLICATION X",
    "2716 |HEAVY MULTIPLICATION X|BALLOT X|HEAVY BALLOT X|OUTLINED GREEK CROSS|HEAVY GREEK CROSS",
    "271b |OPEN CENTRE CROSS|HEAVY OPEN CENTRE CROSS|LATIN CROSS|SHADOWED WHITE LATIN CROSS",
    "271f |OUTLINED LATIN CROSS|MALTESE CROSS|STAR OF DAVID|FOUR TEARDROP-SPOKED ASTERISK",
    "2723 |FOUR BALLOON-SPOKED ASTERISK|HEAVY FOUR BALLOON-SPOKED ASTERISK",
    "2725 |FOUR CLUB-SPOKED ASTERISK|BLACK FOUR POINTED STAR|WHITE FOUR POINTED STAR",
    "2728 |SPARKLES|STRESS OUTLINED WHITE STAR|CIRCLED WHITE STAR|OPEN CENTRE BLACK STAR",
    "272c |BLACK CENTRE WHITE STAR|OUTLINED BLACK STAR|HEAVY OUTLINED BLACK STAR|PINWHEEL STAR",
    "2730 |SHADOWED WHITE STAR|HEAVY ASTERISK|OPEN CENTRE ASTERISK|EIGHT SPOKED ASTERISK",
    "2734 |EIGHT POINTED BLACK STAR|EIGHT POINTED PINWHEEL STAR|SIX POINTED BLACK STAR",
    "2737 |EIGHT POINTED RECTILINEAR BLACK STAR|HEAVY EIGHT POINTED RECTILINEAR BLACK STAR",
    "2739 |TWELVE POINTED BLACK STAR|SIXTEEN POINTED ASTERISK",
    "273b |TEARDROP-SPOKED ASTERISK|OPEN CENTRE TEARDROP-SPOKED ASTERISK",
    "273d |HEAVY TEARDROP-SPOKED ASTERISK|SIX PETALLED BLACK AND WHITE FLORETTE",
    "273f |BLACK FLORETTE|WHITE FLORETTE|EIGHT PETALLED OUTLINED BLACK FLORETTE",
    "2742 |CIRCLED OPEN CENTRE EIGHT POINTED STAR|HEAVY TEARDROP-SPOKED PINWHEEL ASTERISK",
    "2744 |SNOWFLAKE|TIGHT TRIFOLIATE SNOWFLAKE|HEAVY CHEVRON SNOWFLAKE|SPARKLE",
    "2748 |HEAVY SPARKLE|BALLOON-SPOKED ASTERISK|EIGHT TEARDROP-SPOKED PROPELLER ASTERISK",
    "274b |HEAVY EIGHT TEARDROP-SPOKED PROPELLER ASTERISK|CROSS MARK|SHADOWED WHITE CIRCLE",
    "274e |NEGATIVE SQUARED CROSS MARK|LOWER RIGHT DROP-SHADOWED WHITE SQUARE",
    "2750 |UPPER RIGHT DROP-SHADOWED WHITE SQUARE|LOWER RIGHT SHADOWED WHITE SQUARE",
    "2752 |UPPER RIGHT SHADOWED WHITE SQUARE|BLACK QUESTION MARK ORNAMENT",
    "2754 WHITE |QUESTION MARK ORNAMENT|EXCLAMATION MARK ORNAMENT",
    "2756 |BLACK DIAMOND MINUS WHITE X|HEAVY EXCLAMATION MARK SYMBOL",
    "2758 |LIGHT VERTICAL BAR|MEDIUM VERTICAL BAR|HEAVY VERTICAL BAR",
    "275b HEAVY SINGLE |TURNED COMMA QUOTATION MARK ORNAMENT|COMMA QUOTATION MARK ORNAMENT",
    "275d HEAVY DOUBLE |TURNED COMMA QUOTATION MARK ORNAMENT|COMMA QUOTATION MARK ORNAMENT",
    "275f HEAVY LOW |SINGLE COMMA QUOTATION MARK ORNAMENT|DOUBLE COMMA QUOTATION MARK ORNAMENT",
    "2761 |CURVED STEM PARAGRAPH SIGN ORNAMENT",
    "2762 HEAVY |EXCLAMATION MARK ORNAMENT|HEART EXCLAMATION MARK ORNAMENT|BLACK HEART",
    "2765 |ROTATED HEAVY BLACK HEART BULLET|FLORAL HEART|ROTATED FLORAL HEART BULLET",
    "2768 MEDIUM |LEFT PARENTHESIS ORNAMENT|RIGHT PARENTHESIS ORNAMENT",
    "276a MEDIUM FLATTENED |LEFT PARENTHESIS ORNAMENT|RIGHT PARENTHESIS ORNAMENT",
    "276c MEDIUM |LEFT-POINTING ANGLE BRACKET ORNAMENT|RIGHT-POINTING ANGLE BRACKET ORNAMENT",
    "276e |HEAVY LEFT-POINTING ANGLE QUOTATION MARK ORNAMENT",
    "276f |HEAVY RIGHT-POINTING ANGLE QUOTATION MARK ORNAMENT",
    "2770 HEAVY |LEFT-POINTING ANGLE BRACKET ORNAMENT|RIGHT-POINTING ANGLE BRACKET ORNAMENT",
    "2772 LIGHT |LEFT TORTOISE SHELL BRACKET ORNAMENT|RIGHT TORTOISE SHELL BRACKET ORNAMENT",
    "2774 MEDIUM |LEFT CURLY BRACKET ORNAMENT|RIGHT CURLY BRACKET ORNAMENT",
    "2776 DINGBAT NEGATIVE CIRCLED DIGIT |ONE|TWO|THREE|FOUR|FIVE|SIX|SEVEN|EIGHT|NINE",
    "277f |DINGBAT NEGATIVE CIRCLED NUMBER TEN",
    "2780 DINGBAT CIRCLED SANS-SERIF DIGIT |ONE|TWO|THREE|FOUR|FIVE|SIX|SEVEN|EIGHT|NINE",
    "2789 |DINGBAT CIRCLED SANS-SERIF NUMBER TEN",
    "278a DINGBAT NEGATIVE CIRCLED SANS-SERIF DIGIT |ONE|TWO|THREE|FOUR|FIVE|SIX|SEVEN|EIGHT",
    "2792 DINGBAT NEGATIVE CIRCLED SANS-SERIF |DIGIT NINE|NUMBER TEN",
    "2794 HEAVY |WIDE-HEADED RIGHTWARDS ARROW|PLUS SIGN",
    "2796 HEAVY |MINUS SIGN|DIVISION SIGN|SOUTH EAST ARROW|RIGHTWARDS ARROW|NORTH EAST ARROW",
    "279b |DRAFTING POINT RIGHTWARDS ARROW|HEAVY ROUND-TIPPED RIGHTWARDS ARROW",
    "279d |TRIANGLE-HEADED RIGHTWARDS ARROW|HEAVY TRIANGLE-HEADED RIGHTWARDS ARROW",
    "279f |DASHED TRIANGLE-HEADED RIGHTWARDS ARROW|HEAVY DASHED TRIANGLE-HEADED RIGHTWARDS ARROW",
    "27a1 |BLACK RIGHTWARDS ARROW|THREE-D TOP-LIGHTED RIGHTWARDS ARROWHEAD",
    "27a3 |THREE-D BOTTOM-LIGHTED RIGHTWARDS ARROWHEAD|BLACK RIGHTWARDS ARROWHEAD",
    "27a5 HEAVY BLACK CURVED |DOWNWARDS AND RIGHTWARDS ARROW|UPWARDS AND RIGHTWARDS ARROW",
    "27a7 |SQUAT BLACK RIGHTWARDS ARROW",
    "27a8 |HEAVY CONCAVE-POINTED BLACK RIGHTWARDS ARROW|RIGHT-SHADED WHITE RIGHTWARDS ARROW",
    "27aa |LEFT-SHADED WHITE RIGHTWARDS ARROW|BACK-TILTED SHADOWED WHITE RIGHTWARDS ARROW",
    "27ac |FRONT-TILTED SHADOWED WHITE RIGHTWARDS ARROW",
    "27ad |HEAVY LOWER RIGHT-SHADOWED WHITE RIGHTWARDS ARROW",
    "27ae |HEAVY UPPER RIGHT-SHADOWED WHITE RIGHTWARDS ARROW",
    "27af |NOTCHED LOWER RIGHT-SHADOWED WHITE RIGHTWARDS ARROW",
    "27b0 |CURLY LOOP|NOTCHED UPPER RIGHT-SHADOWED WHITE RIGHTWARDS ARROW",
    "27b2 |CIRCLED HEAVY WHITE RIGHTWARDS ARROW|WHITE-FEATHERED RIGHTWARDS ARROW",
    "27b4 BLACK-FEATHERED |SOUTH EAST ARROW|RIGHTWARDS ARROW|NORTH EAST ARROW",
    "27b7 HEAVY BLACK-FEATHERED |SOUTH EAST ARROW|RIGHTWARDS ARROW|NORTH EAST ARROW",
    "27ba |TEARDROP-BARBED RIGHTWARDS ARROW",
    "27bb |HEAVY TEARDROP-SHANKED RIGHTWARDS ARROW|WEDGE-TAILED RIGHTWARDS ARROW",
    "27bd |HEAVY WEDGE-TAILED RIGHTWARDS ARROW|OPEN-OUTLINED RIGHTWARDS ARROW|DOUBLE CURLY LOOP",
    "27c0 |THREE DIMENSIONAL ANGLE|WHITE TRIANGLE CONTAINING SMALL WHITE TRIANGLE",
    "27c2 |PERPENDICULAR|OPEN SUBSET|OPEN SUPERSET|LEFT S-SHAPED BAG DELIMITER",
    "27c6 |RIGHT S-SHAPED BAG DELIMITER|OR WITH DOT INSIDE|REVERSE SOLIDUS PRECEDING SUBSET",
    "27c9 |SUPERSET PRECEDING SOLIDUS|VERTICAL BAR WITH HORIZONTAL STROKE",
    "27cb |MATHEMATICAL RISING DIAGONAL|LONG DIVISION|MATHEMATICAL FALLING DIAGONAL",
    "27ce SQUARED LOGICAL |AND|OR",
    "27d0 |WHITE DIAMOND WITH CENTRED DOT|AND WITH DOT",
    "27d2 |ELEMENT OF OPENING UPWARDS|LOWER RIGHT CORNER WITH DOT|UPPER LEFT CORNER WITH DOT",
    "27d5 |LEFT OUTER JOIN|RIGHT OUTER JOIN|FULL OUTER JOIN|LARGE UP TACK|LARGE DOWN TACK",
    "27da LEFT AND RIGHT |DOUBLE TURNSTILE|TACK",
    "27dc |LEFT MULTIMAP|LONG RIGHT TACK",
    "27de |LONG LEFT TACK|UP TACK WITH CIRCLE ABOVE|LOZENGE DIVIDED BY HORIZONTAL RULE",
    "27e1 WHITE CONCAVE-SIDED |DIAMOND|DIAMOND WITH LEFTWARDS TICK|DIAMOND WITH RIGHTWARDS TICK",
    "27e4 WHITE SQUARE WITH |LEFTWARDS TICK|RIGHTWARDS TICK",
    "27e6 MATHEMATICAL |LEFT WHITE SQUARE BRACKET|RIGHT WHITE SQUARE BRACKET|LEFT ANGLE BRACKET",
    "27e9 MATHEMATICAL |RIGHT ANGLE BRACKET|LEFT DOUBLE ANGLE BRACKET|RIGHT DOUBLE ANGLE BRACKET",
    "27ec MATHEMATICAL |LEFT WHITE TORTOISE SHELL BRACKET|RIGHT WHITE TORTOISE SHELL BRACKET",
    "27ee MATHEMATICAL |LEFT FLATTENED PARENTHESIS|RIGHT FLATTENED PARENTHESIS",
    "27f0 |UPWARDS QUADRUPLE ARROW|DOWNWARDS QUADRUPLE ARROW|ANTICLOCKWISE GAPPED CIRCLE ARROW",
    "27f3 |CLOCKWISE GAPPED CIRCLE ARROW|RIGHT ARROW WITH CIRCLED PLUS",
    "27f5 LONG |LEFTWARDS ARROW|RIGHTWARDS ARROW|LEFT RIGHT ARROW|LEFTWARDS DOUBLE ARROW",
    "27f9 LONG |RIGHTWARDS DOUBLE ARROW|LEFT RIGHT DOUBLE ARROW|LEFTWARDS ARROW FROM BAR",
    "27fc LONG |RIGHTWARDS ARROW FROM BAR|LEFTWARDS DOUBLE ARROW FROM BAR",
    "27fe LONG RIGHTWARDS |DOUBLE ARROW FROM BAR|SQUIGGLE ARROW",
    "2800 BRAILLE PATTERN |BLANK|DOTS-1|DOTS-2|DOTS-12|DOTS-3|DOTS-13|DOTS-23",
    "2807 BRAILLE PATTERN |DOTS-123|DOTS-4|DOTS-14|DOTS-24|DOTS-124|DOTS-34|DOTS-134|DOTS-234",
    "280f BRAILLE PATTERN |DOTS-1234|DOTS-5|DOTS-15|DOTS-25|DOTS-125|DOTS-35|DOTS-135|DOTS-235",
    "2817 BRAILLE PATTERN |DOTS-1235|DOTS-45|DOTS-145|DOTS-245|DOTS-1245|DOTS-345|DOTS-1345",
    "281e BRAILLE PATTERN |DOTS-2345|DOTS-12345|DOTS-6|DOTS-16|DOTS-26|DOTS-126|DOTS-36",
    "2825 BRAILLE PATTERN |DOTS-136|DOTS-236|DOTS-1236|DOTS-46|DOTS-146|DOTS-246|DOTS-1246",
    "282c BRAILLE PATTERN |DOTS-346|DOTS-1346|DOTS-2346|DOTS-12346|DOTS-56|DOTS-156|DOTS-256",
    "2833 BRAILLE PATTERN |DOTS-1256|DOTS-356|DOTS-1356|DOTS-2356|DOTS-12356|DOTS-456|DOTS-1456",
    "283a BRAILLE PATTERN |DOTS-2456|DOTS-12456|DOTS-3456|DOTS-13456|DOTS-23456|DOTS-123456",
    "2840 BRAILLE PATTERN |DOTS-7|DOTS-17|DOTS-27|DOTS-127|DOTS-37|DOTS-137|DOTS-237|DOTS-1237",
    "2848 BRAILLE PATTERN |DOTS-47|DOTS-147|DOTS-247|DOTS-1247|DOTS-347|DOTS-1347|DOTS-2347",
    "284f BRAILLE PATTERN |DOTS-12347|DOTS-57|DOTS-157|DOTS-257|DOTS-1257|DOTS-357|DOTS-1357",
    "2856 BRAILLE PATTERN |DOTS-2357|DOTS-12357|DOTS-457|DOTS-1457|DOTS-2457|DOTS-12457",
    "285c BRAILLE PATTERN |DOTS-3457|DOTS-13457|DOTS-23457|DOTS-123457|DOTS-67|DOTS-167",
    "2862 BRAILLE PATTERN |DOTS-267|DOTS-1267|DOTS-367|DOTS-1367|DOTS-2367|DOTS-12367|DOTS-467",
    "2869 BRAILLE PATTERN |DOTS-1467|DOTS-2467|DOTS-12467|DOTS-3467|DOTS-13467|DOTS-23467",
    "286f BRAILLE PATTERN |DOTS-123467|DOTS-567|DOTS-1567|DOTS-2567|DOTS-12567|DOTS-3567",
    "2875 BRAILLE PATTERN |DOTS-13567|DOTS-23567|DOTS-123567|DOTS-4567|DOTS-14567|DOTS-24567",
    "287b BRAILLE PATTERN |DOTS-124567|DOTS-34567|DOTS-134567|DOTS-234567|DOTS-1234567",
    "2880 BRAILLE PATTERN |DOTS-8|DOTS-18|DOTS-28|DOTS-128|DOTS-38|DOTS-138|DOTS-238|DOTS-1238",
    "2888 BRAILLE PATTERN |DOTS-48|DOTS-148|DOTS-248|DOTS-1248|DOTS-348|DOTS-1348|DOTS-2348",
    "288f BRAILLE PATTERN |DOTS-12348|DOTS-58|DOTS-158|DOTS-258|DOTS-1258|DOTS-358|DOTS-1358",
    "2896 BRAILLE PATTERN |DOTS-2358|DOTS-12358|DOTS-458|DOTS-1458|DOTS-2458|DOTS-12458",
    "289c BRAILLE PATTERN |DOTS-3458|DOTS-13458|DOTS-23458|DOTS-123458|DOTS-68|DOTS-168",
    "28a2 BRAILLE PATTERN |DOTS-268|DOTS-1268|DOTS-368|DOTS-1368|DOTS-2368|DOTS-12368|DOTS-468",
    "28a9 BRAILLE PATTERN |DOTS-1468|DOTS-2468|DOTS-12468|DOTS-3468|DOTS-13468|DOTS-23468",
    "28af BRAILLE PATTERN |DOTS-123468|DOTS-568|DOTS-1568|DOTS-2568|DOTS-12568|DOTS-3568",
    "28b5 BRAILLE PATTERN |DOTS-13568|DOTS-23568|DOTS-123568|DOTS-4568|DOTS-14568|DOTS-24568",
    "28bb BRAILLE PATTERN |DOTS-124568|DOTS-34568|DOTS-134568|DOTS-234568|DOTS-1234568",
    "28c0 BRAILLE PATTERN |DOTS-78|DOTS-178|DOTS-278|DOTS-1278|DOTS-378|DOTS-1378|DOTS-2378",
    "28c7 BRAILLE PATTERN |DOTS-12378|DOTS-478|DOTS-1478|DOTS-2478|DOTS-12478|DOTS-3478",
    "28cd BRAILLE PATTERN |DOTS-13478|DOTS-23478|DOTS-123478|DOTS-578|DOTS-1578|DOTS-2578",
    "28d3 BRAILLE PATTERN |DOTS-12578|DOTS-3578|DOTS-13578|DOTS-23578|DOTS-123578|DOTS-4578",
    "28d9 BRAILLE PATTERN |DOTS-14578|DOTS-24578|DOTS-124578|DOTS-34578|DOTS-134578|DOTS-234578",
    "28df BRAILLE PATTERN |DOTS-1234578|DOTS-678|DOTS-1678|DOTS-2678|DOTS-12678|DOTS-3678",
    "28e5 BRAILLE PATTERN |DOTS-13678|DOTS-23678|DOTS-123678|DOTS-4678|DOTS-14678|DOTS-24678",
    "28eb BRAILLE PATTERN |DOTS-124678|DOTS-34678|DOTS-134678|DOTS-234678|DOTS-1234678",
    "28f0 BRAILLE PATTERN |DOTS-5678|DOTS-15678|DOTS-25678|DOTS-125678|DOTS-35678|DOTS-135678",
    "28f6 BRAILLE PATTERN |DOTS-235678|DOTS-1235678|DOTS-45678|DOTS-145678|DOTS-245678",
    "28fb BRAILLE PATTERN |DOTS-1245678|DOTS-345678|DOTS-1345678|DOTS-2345678|DOTS-12345678",
    "2900 RIGHTWARDS TWO-HEADED ARROW WITH |VERTICAL STROKE|DOUBLE VERTICAL STROKE",
    "2902 |LEFTWARDS DOUBLE ARROW WITH VERTICAL STROKE",
    "2903 |RIGHTWARDS DOUBLE ARROW WITH VERTICAL STROKE",
    "2904 |LEFT RIGHT DOUBLE ARROW WITH VERTICAL STROKE",
    "2905 |RIGHTWARDS TWO-HEADED ARROW FROM BAR|LEFTWARDS DOUBLE ARROW FROM BAR",
    "2907 |RIGHTWARDS DOUBLE ARROW FROM BAR|DOWNWARDS ARROW WITH HORIZONTAL STROKE",
    "2909 |UPWARDS ARROW WITH HORIZONTAL STROKE|UPWARDS TRIPLE ARROW|DOWNWARDS TRIPLE ARROW",
    "290c |LEFTWARDS DOUBLE DASH ARROW|RIGHTWARDS DOUBLE DASH ARROW|LEFTWARDS TRIPLE DASH ARROW",
    "290f RIGHTWARDS |TRIPLE DASH ARROW|TWO-HEADED TRIPLE DASH ARROW|ARROW WITH DOTTED STEM",
    "2912 |UPWARDS ARROW TO BAR|DOWNWARDS ARROW TO BAR",
    "2914 RIGHTWARDS ARROW WITH TAIL WITH |VERTICAL STROKE|DOUBLE VERTICAL STROKE",
    "2916 |RIGHTWARDS TWO-HEADED ARROW WITH TAIL",
    "2917 RIGHTWARDS TWO-HEADED ARROW WITH TAIL WITH |VERTICAL STROKE|DOUBLE VERTICAL STROKE",
    "2919 |LEFTWARDS ARROW-TAIL|RIGHTWARDS ARROW-TAIL|LEFTWARDS DOUBLE ARROW-TAIL",
    "291c |RIGHTWARDS DOUBLE ARROW-TAIL|LEFTWARDS ARROW TO BLACK DIAMOND",
    "291e |RIGHTWARDS ARROW TO BLACK DIAMOND|LEFTWARDS ARROW FROM BAR TO BLACK DIAMOND",
    "2920 |RIGHTWARDS ARROW FROM BAR TO BLACK DIAMOND|NORTH WEST AND SOUTH EAST ARROW",
    "2922 NORTH |EAST AND SOUTH WEST ARROW|WEST ARROW WITH HOOK|EAST ARROW WITH HOOK",
    "2925 SOUTH |EAST ARROW WITH HOOK|WEST ARROW WITH HOOK",
    "2927 NORTH |WEST ARROW AND NORTH EAST ARROW|EAST ARROW AND SOUTH EAST ARROW",
    "2929 SOUTH |EAST ARROW AND SOUTH WEST ARROW|WEST ARROW AND NORTH WEST ARROW",
    "292b |RISING DIAGONAL CROSSING FALLING DIAGONAL|FALLING DIAGONAL CROSSING RISING DIAGONAL",
    "292d |SOUTH EAST ARROW CROSSING NORTH EAST ARROW|NORTH EAST ARROW CROSSING SOUTH EAST ARROW",
    "292f |FALLING DIAGONAL CROSSING NORTH EAST ARROW|RISING DIAGONAL CROSSING SOUTH EAST ARROW",
    "2931 NORTH |EAST ARROW CROSSING NORTH WEST ARROW|WEST ARROW CROSSING NORTH EAST ARROW",
    "2933 |WAVE ARROW POINTING DIRECTLY RIGHT",
    "2934 ARROW POINTING RIGHTWARDS THEN CURVING |UPWARDS|DOWNWARDS",
    "2936 ARROW POINTING DOWNWARDS THEN CURVING |LEFTWARDS|RIGHTWARDS",
    "2938 |RIGHT-SIDE ARC CLOCKWISE ARROW|LEFT-SIDE ARC ANTICLOCKWISE ARROW",
    "293a |TOP ARC ANTICLOCKWISE ARROW|BOTTOM ARC ANTICLOCKWISE ARROW",
    "293c TOP ARC |CLOCKWISE ARROW WITH MINUS|ANTICLOCKWISE ARROW WITH PLUS",
    "293e LOWER |RIGHT SEMICIRCULAR CLOCKWISE ARROW|LEFT SEMICIRCULAR ANTICLOCKWISE ARROW",
    "2940 |ANTICLOCKWISE CLOSED CIRCLE ARROW",
    "2941 |CLOCKWISE CLOSED CIRCLE ARROW|RIGHTWARDS ARROW ABOVE SHORT LEFTWARDS ARROW",
    "2943 |LEFTWARDS ARROW ABOVE SHORT RIGHTWARDS ARROW",
    "2944 |SHORT RIGHTWARDS ARROW ABOVE LEFTWARDS ARROW|RIGHTWARDS ARROW WITH PLUS BELOW",
    "2946 |LEFTWARDS ARROW WITH PLUS BELOW|RIGHTWARDS ARROW THROUGH X",
    "2948 |LEFT RIGHT ARROW THROUGH SMALL CIRCLE|UPWARDS TWO-HEADED ARROW FROM SMALL CIRCLE",
    "294a LEFT BARB |UP RIGHT BARB DOWN HARPOON|DOWN RIGHT BARB UP HARPOON",
    "294c UP BARB |RIGHT DOWN BARB LEFT HARPOON|LEFT DOWN BARB RIGHT HARPOON",
    "294e |LEFT BARB UP RIGHT BARB UP HARPOON|UP BARB RIGHT DOWN BARB RIGHT HARPOON",
    "2950 |LEFT BARB DOWN RIGHT BARB DOWN HARPOON|UP BARB LEFT DOWN BARB LEFT HARPOON",
    "2952 |LEFTWARDS HARPOON WITH BARB UP TO BAR|RIGHTWARDS HARPOON WITH BARB UP TO BAR",
    "2954 |UPWARDS HARPOON WITH BARB RIGHT TO BAR|DOWNWARDS HARPOON WITH BARB RIGHT TO BAR",
    "2956 |LEFTWARDS HARPOON WITH BARB DOWN TO BAR|RIGHTWARDS HARPOON WITH BARB DOWN TO BAR",
    "2958 |UPWARDS HARPOON WITH BARB LEFT TO BAR|DOWNWARDS HARPOON WITH BARB LEFT TO BAR",
    "295a |LEFTWARDS HARPOON WITH BARB UP FROM BAR|RIGHTWARDS HARPOON WITH BARB UP FROM BAR",
    "295c |UPWARDS HARPOON WITH BARB RIGHT FROM BAR|DOWNWARDS HARPOON WITH BARB RIGHT FROM BAR",
    "295e |LEFTWARDS HARPOON WITH BARB DOWN FROM BAR|RIGHTWARDS HARPOON WITH BARB DOWN FROM BAR",
    "2960 |UPWARDS HARPOON WITH BARB LEFT FROM BAR|DOWNWARDS HARPOON WITH BARB LEFT FROM BAR",
    "2962 |LEFTWARDS HARPOON WITH BARB UP ABOVE LEFTWARDS HARPOON WITH BARB DOWN",
    "2963 |UPWARDS HARPOON WITH BARB LEFT BESIDE UPWARDS HARPOON WITH BARB RIGHT",
    "2964 |RIGHTWARDS HARPOON WITH BARB UP ABOVE RIGHTWARDS HARPOON WITH BARB DOWN",
    "2965 |DOWNWARDS HARPOON WITH BARB LEFT BESIDE DOWNWARDS HARPOON WITH BARB RIGHT",
    "2966 |LEFTWARDS HARPOON WITH BARB UP ABOVE RIGHTWARDS HARPOON WITH BARB UP",
    "2967 |LEFTWARDS HARPOON WITH BARB DOWN ABOVE RIGHTWARDS HARPOON WITH BARB DOWN",
    "2968 |RIGHTWARDS HARPOON WITH BARB UP ABOVE LEFTWARDS HARPOON WITH BARB UP",
    "2969 |RIGHTWARDS HARPOON WITH BARB DOWN ABOVE LEFTWARDS HARPOON WITH BARB DOWN",
    "296a LEFTWARDS HARPOON WITH BARB |UP ABOVE LONG DASH|DOWN BELOW LONG DASH",
    "296c RIGHTWARDS HARPOON WITH BARB |UP ABOVE LONG DASH|DOWN BELOW LONG DASH",
    "296e |UPWARDS HARPOON WITH BARB LEFT BESIDE DOWNWARDS HARPOON WITH BARB RIGHT",
    "296f |DOWNWARDS HARPOON WITH BARB LEFT BESIDE UPWARDS HARPOON WITH BARB RIGHT",
    "2970 |RIGHT DOUBLE ARROW WITH ROUNDED HEAD|EQUALS SIGN ABOVE RIGHTWARDS ARROW",
    "2972 |TILDE OPERATOR ABOVE RIGHTWARDS ARROW|LEFTWARDS ARROW ABOVE TILDE OPERATOR",
    "2974 RIGHTWARDS ARROW ABOVE |TILDE OPERATOR|ALMOST EQUAL TO",
    "2976 |LESS-THAN ABOVE LEFTWARDS ARROW|LEFTWARDS ARROW THROUGH LESS-THAN",
    "2978 |GREATER-THAN ABOVE RIGHTWARDS ARROW|SUBSET ABOVE RIGHTWARDS ARROW",
    "297a |LEFTWARDS ARROW THROUGH SUBSET|SUPERSET ABOVE LEFTWARDS ARROW|LEFT FISH TAIL",
    "297d |RIGHT FISH TAIL|UP FISH TAIL|DOWN FISH TAIL|TRIPLE VERTICAL BAR DELIMITER",
    "2981 |Z NOTATION SPOT|Z NOTATION TYPE COLON|LEFT WHITE CURLY BRACKET",
    "2984 |RIGHT WHITE CURLY BRACKET|LEFT WHITE PARENTHESIS|RIGHT WHITE PARENTHESIS",
    "2987 Z NOTATION |LEFT IMAGE BRACKET|RIGHT IMAGE BRACKET|LEFT BINDING BRACKET",
    "298a |Z NOTATION RIGHT BINDING BRACKET|LEFT SQUARE BRACKET WITH UNDERBAR",
    "298c |RIGHT SQUARE BRACKET WITH UNDERBAR|LEFT SQUARE BRACKET WITH TICK IN TOP CORNER",
    "298e |RIGHT SQUARE BRACKET WITH TICK IN BOTTOM CORNER",
    "298f |LEFT SQUARE BRACKET WITH TICK IN BOTTOM CORNER",
    "2990 |RIGHT SQUARE BRACKET WITH TICK IN TOP CORNER",
    "2991 |LEFT ANGLE BRACKET WITH DOT|RIGHT ANGLE BRACKET WITH DOT",
    "2993 |LEFT ARC LESS-THAN BRACKET|RIGHT ARC GREATER-THAN BRACKET",
    "2995 DOUBLE |LEFT ARC GREATER-THAN BRACKET|RIGHT ARC LESS-THAN BRACKET",
    "2997 |LEFT BLACK TORTOISE SHELL BRACKET|RIGHT BLACK TORTOISE SHELL BRACKET|DOTTED FENCE",
    "299a |VERTICAL ZIGZAG LINE|MEASURED ANGLE OPENING LEFT|RIGHT ANGLE VARIANT WITH SQUARE",
    "299d |MEASURED RIGHT ANGLE WITH DOT|ANGLE WITH S INSIDE|ACUTE ANGLE",
    "29a0 SPHERICAL ANGLE OPENING |LEFT|UP",
    "29a2 |TURNED ANGLE|REVERSED ANGLE|ANGLE WITH UNDERBAR|REVERSED ANGLE WITH UNDERBAR",
    "29a6 OBLIQUE ANGLE OPENING |UP|DOWN",
    "29a8 MEASURED ANGLE WITH OPEN ARM ENDING IN ARROW POINTING UP AND |RIGHT|LEFT",
    "29aa MEASURED ANGLE WITH OPEN ARM ENDING IN ARROW POINTING DOWN AND |RIGHT|LEFT",
    "29ac MEASURED ANGLE WITH OPEN ARM ENDING IN ARROW POINTING |RIGHT AND UP|LEFT AND UP",
    "29ae MEASURED ANGLE WITH OPEN ARM ENDING IN ARROW POINTING |RIGHT AND DOWN|LEFT AND DOWN",
    "29b0 |REVERSED EMPTY SET",
    "29b1 EMPTY SET WITH |OVERBAR|SMALL CIRCLE ABOVE|RIGHT ARROW ABOVE|LEFT ARROW ABOVE",
    "29b5 |CIRCLE WITH HORIZONTAL BAR",
    "29b6 CIRCLED |VERTICAL BAR|PARALLEL|REVERSE SOLIDUS|PERPENDICULAR",
    "29ba |CIRCLE DIVIDED BY HORIZONTAL BAR AND TOP HALF DIVIDED BY VERTICAL BAR",
    "29bb |CIRCLE WITH SUPERIMPOSED X",
    "29bc |CIRCLED ANTICLOCKWISE-ROTATED DIVISION SIGN|UP ARROW THROUGH CIRCLE",
    "29be CIRCLED |WHITE BULLET|BULLET|LESS-THAN|GREATER-THAN",
    "29c2 CIRCLE WITH |SMALL CIRCLE TO THE RIGHT|TWO HORIZONTAL STROKES TO THE RIGHT",
    "29c4 SQUARED |RISING DIAGONAL SLASH|FALLING DIAGONAL SLASH|ASTERISK|SMALL CIRCLE|SQUARE",
    "29c9 |TWO JOINED SQUARES|TRIANGLE WITH DOT ABOVE|TRIANGLE WITH UNDERBAR",
    "29cc |S IN TRIANGLE|TRIANGLE WITH SERIFS AT BOTTOM|RIGHT TRIANGLE ABOVE LEFT TRIANGLE",
    "29cf |LEFT TRIANGLE BESIDE VERTICAL BAR|VERTICAL BAR BESIDE RIGHT TRIANGLE",
    "29d1 BOWTIE WITH |LEFT HALF BLACK|RIGHT HALF BLACK",
    "29d3 |BLACK BOWTIE|TIMES WITH LEFT HALF BLACK",
    "29d5 |TIMES WITH RIGHT HALF BLACK|WHITE HOURGLASS|BLACK HOURGLASS|LEFT WIGGLY FENCE",
    "29d9 |RIGHT WIGGLY FENCE|LEFT DOUBLE WIGGLY FENCE|RIGHT DOUBLE WIGGLY FENCE",
    "29dc |INCOMPLETE INFINITY|TIE OVER INFINITY|INFINITY NEGATED WITH VERTICAL BAR",
    "29df |DOUBLE-ENDED MULTIMAP|SQUARE WITH CONTOURED OUTLINE|INCREASES AS|SHUFFLE PRODUCT",
    "29e3 EQUALS SIGN AND SLANTED |PARALLEL|PARALLEL WITH TILDE ABOVE",
    "29e5 |IDENTICAL TO AND SLANTED PARALLEL|GLEICH STARK|THERMODYNAMIC",
    "29e8 DOWN-POINTING TRIANGLE WITH |LEFT HALF BLACK|RIGHT HALF BLACK",
    "29ea BLACK |DIAMOND WITH DOWN ARROW|LOZENGE",
    "29ec |WHITE CIRCLE WITH DOWN ARROW|BLACK CIRCLE WITH DOWN ARROW",
    "29ee ERROR-BARRED |WHITE SQUARE|BLACK SQUARE|WHITE DIAMOND|BLACK DIAMOND|WHITE CIRCLE",
    "29f3 |ERROR-BARRED BLACK CIRCLE|RULE-DELAYED",
    "29f5 |REVERSE SOLIDUS OPERATOR|SOLIDUS WITH OVERBAR|REVERSE SOLIDUS WITH HORIZONTAL STROKE",
    "29f8 |BIG SOLIDUS|BIG REVERSE SOLIDUS|DOUBLE PLUS|TRIPLE PLUS",
    "29fc |LEFT-POINTING CURVED ANGLE BRACKET|RIGHT-POINTING CURVED ANGLE BRACKET|TINY|MINY",
    "2a00 N-ARY CIRCLED |DOT OPERATOR|PLUS OPERATOR|TIMES OPERATOR",
    "2a03 N-ARY UNION OPERATOR WITH |DOT|PLUS",
    "2a05 N-ARY SQUARE |INTERSECTION OPERATOR|UNION OPERATOR",
    "2a07 TWO LOGICAL |AND OPERATOR|OR OPERATOR",
    "2a09 |N-ARY TIMES OPERATOR|MODULO TWO SUM|SUMMATION WITH INTEGRAL",
    "2a0c |QUADRUPLE INTEGRAL OPERATOR|FINITE PART INTEGRAL|INTEGRAL WITH DOUBLE STROKE",
    "2a0f |INTEGRAL AVERAGE WITH SLASH|CIRCULATION FUNCTION|ANTICLOCKWISE INTEGRATION",
    "2a12 LINE INTEGRATION WITH |RECTANGULAR PATH AROUND POLE|SEMICIRCULAR PATH AROUND POLE",
    "2a14 |LINE INTEGRATION NOT INCLUDING THE POLE",
    "2a15 |INTEGRAL AROUND A POINT OPERATOR|QUATERNION INTEGRAL OPERATOR",
    "2a17 INTEGRAL WITH |LEFTWARDS ARROW WITH HOOK|TIMES SIGN|INTERSECTION|UNION|OVERBAR",
    "2a1c |INTEGRAL WITH UNDERBAR|JOIN|LARGE LEFT TRIANGLE OPERATOR",
    "2a1f Z NOTATION SCHEMA |COMPOSITION|PIPING|PROJECTION",
    "2a22 PLUS SIGN WITH |SMALL CIRCLE ABOVE|CIRCUMFLEX ACCENT ABOVE",
    "2a24 PLUS SIGN WITH |TILDE ABOVE|DOT BELOW|TILDE BELOW|SUBSCRIPT TWO|BLACK TRIANGLE",
    "2a29 MINUS SIGN WITH |COMMA ABOVE|DOT BELOW|FALLING DOTS|RISING DOTS",
    "2a2d |PLUS SIGN IN LEFT HALF CIRCLE|PLUS SIGN IN RIGHT HALF CIRCLE|VECTOR OR CROSS PRODUCT",
    "2a30 MULTIPLICATION SIGN WITH |DOT ABOVE|UNDERBAR",
    "2a32 |SEMIDIRECT PRODUCT WITH BOTTOM CLOSED|SMASH PRODUCT",
    "2a34 MULTIPLICATION SIGN IN |LEFT HALF CIRCLE|RIGHT HALF CIRCLE",
    "2a36 |CIRCLED MULTIPLICATION SIGN WITH CIRCUMFLEX ACCENT",
    "2a37 |MULTIPLICATION SIGN IN DOUBLE CIRCLE",
    "2a38 |CIRCLED DIVISION SIGN|PLUS SIGN IN TRIANGLE|MINUS SIGN IN TRIANGLE",
    "2a3b |MULTIPLICATION SIGN IN TRIANGLE|INTERIOR PRODUCT|RIGHTHAND INTERIOR PRODUCT",
    "2a3e |Z NOTATION RELATIONAL COMPOSITION|AMALGAMATION OR COPRODUCT|INTERSECTION WITH DOT",
    "2a41 UNION WITH |MINUS SIGN|OVERBAR",
    "2a43 INTERSECTION WITH |OVERBAR|LOGICAL AND",
    "2a45 |UNION WITH LOGICAL OR|UNION ABOVE INTERSECTION|INTERSECTION ABOVE UNION",
    "2a48 |UNION ABOVE BAR ABOVE INTERSECTION|INTERSECTION ABOVE BAR ABOVE UNION",
    "2a4a |UNION BESIDE AND JOINED WITH UNION|INTERSECTION BESIDE AND JOINED WITH INTERSECTION",
    "2a4c CLOSED |UNION WITH SERIFS|INTERSECTION WITH SERIFS",
    "2a4e DOUBLE SQUARE |INTERSECTION|UNION",
    "2a50 |CLOSED UNION WITH SERIFS AND SMASH PRODUCT",
    "2a51 LOGICAL |AND WITH DOT ABOVE|OR WITH DOT ABOVE",
    "2a53 DOUBLE LOGICAL |AND|OR",
    "2a55 TWO INTERSECTING LOGICAL |AND|OR",
    "2a57 SLOPING LARGE |OR|AND",
    "2a59 LOGICAL |OR OVERLAPPING LOGICAL AND|AND WITH MIDDLE STEM",
    "2a5b LOGICAL |OR WITH MIDDLE STEM|AND WITH HORIZONTAL DASH|OR WITH HORIZONTAL DASH",
    "2a5e LOGICAL AND WITH |DOUBLE OVERBAR|UNDERBAR|DOUBLE UNDERBAR",
    "2a61 |SMALL VEE WITH UNDERBAR",
    "2a62 LOGICAL OR WITH DOUBLE |OVERBAR|UNDERBAR",
    "2a64 Z NOTATION |DOMAIN ANTIRESTRICTION|RANGE ANTIRESTRICTION",
    "2a66 |EQUALS SIGN WITH DOT BELOW|IDENTICAL WITH DOT ABOVE",
    "2a68 TRIPLE HORIZONTAL BAR WITH |DOUBLE VERTICAL STROKE|TRIPLE VERTICAL STROKE",
    "2a6a TILDE OPERATOR WITH |DOT ABOVE|RISING DOTS",
    "2a6c |SIMILAR MINUS SIMILAR|CONGRUENT WITH DOT ABOVE|EQUALS WITH ASTERISK",
    "2a6f |ALMOST EQUAL TO WITH CIRCUMFLEX ACCENT|APPROXIMATELY EQUAL OR EQUAL TO",
    "2a71 |EQUALS SIGN ABOVE PLUS SIGN|PLUS SIGN ABOVE EQUALS SIGN",
    "2a73 |EQUALS SIGN ABOVE TILDE OPERATOR|DOUBLE COLON EQUAL|TWO CONSECUTIVE EQUALS SIGNS",
    "2a76 |THREE CONSECUTIVE EQUALS SIGNS|EQUALS SIGN WITH TWO DOTS ABOVE AND TWO DOTS BELOW",
    "2a78 |EQUIVALENT WITH FOUR DOTS ABOVE|LESS-THAN WITH CIRCLE INSIDE",
    "2a7a |GREATER-THAN WITH CIRCLE INSIDE|LESS-THAN WITH QUESTION MARK ABOVE",
    "2a7c |GREATER-THAN WITH QUESTION MARK ABOVE|LESS-THAN OR SLANTED EQUAL TO",
    "2a7e |GREATER-THAN OR SLANTED EQUAL TO|LESS-THAN OR SLANTED EQUAL TO WITH DOT INSIDE",
    "2a80 |GREATER-THAN OR SLANTED EQUAL TO WITH DOT INSIDE",
    "2a81 |LESS-THAN OR SLANTED EQUAL TO WITH DOT ABOVE",
    "2a82 |GREATER-THAN OR SLANTED EQUAL TO WITH DOT ABOVE",
    "2a83 |LESS-THAN OR SLANTED EQUAL TO WITH DOT ABOVE RIGHT",
    "2a84 |GREATER-THAN OR SLANTED EQUAL TO WITH DOT ABOVE LEFT|LESS-THAN OR APPROXIMATE",
    "2a86 |GREATER-THAN OR APPROXIMATE|LESS-THAN AND SINGLE-LINE NOT EQUAL TO",
    "2a88 |GREATER-THAN AND SINGLE-LINE NOT EQUAL TO|LESS-THAN AND NOT APPROXIMATE",
    "2a8a |GREATER-THAN AND NOT APPROXIMATE|LESS-THAN ABOVE DOUBLE-LINE EQUAL ABOVE GREATER-THAN",
    "2a8c |GREATER-THAN ABOVE DOUBLE-LINE EQUAL ABOVE LESS-THAN",
    "2a8d |LESS-THAN ABOVE SIMILAR OR EQUAL|GREATER-THAN ABOVE SIMILAR OR EQUAL",
    "2a8f |LESS-THAN ABOVE SIMILAR ABOVE GREATER-THAN|GREATER-THAN ABOVE SIMILAR ABOVE LESS-THAN",
    "2a91 |LESS-THAN ABOVE GREATER-THAN ABOVE DOUBLE-LINE EQUAL",
    "2a92 |GREATER-THAN ABOVE LESS-THAN ABOVE DOUBLE-LINE EQUAL",
    "2a93 |LESS-THAN ABOVE SLANTED EQUAL ABOVE GREATER-THAN ABOVE SLANTED EQUAL",
    "2a94 |GREATER-THAN ABOVE SLANTED EQUAL ABOVE LESS-THAN ABOVE SLANTED EQUAL",
    "2a95 SLANTED EQUAL TO OR |LESS-THAN|GREATER-THAN",
    "2a97 SLANTED EQUAL TO OR |LESS-THAN WITH DOT INSIDE|GREATER-THAN WITH DOT INSIDE",
    "2a99 DOUBLE-LINE EQUAL TO OR |LESS-THAN|GREATER-THAN",
    "2a9b DOUBLE-LINE SLANTED EQUAL TO OR |LESS-THAN|GREATER-THAN",
    "2a9d SIMILAR OR |LESS-THAN|GREATER-THAN",
    "2a9f SIMILAR ABOVE |LESS-THAN ABOVE EQUALS SIGN|GREATER-THAN ABOVE EQUALS SIGN",
    "2aa1 DOUBLE NESTED |LESS-THAN|GREATER-THAN|LESS-THAN WITH UNDERBAR",
    "2aa4 GREATER-THAN |OVERLAPPING LESS-THAN|BESIDE LESS-THAN",
    "2aa6 |LESS-THAN CLOSED BY CURVE",
    "2aa7 |GREATER-THAN CLOSED BY CURVE|LESS-THAN CLOSED BY CURVE ABOVE SLANTED EQUAL",
    "2aa9 |GREATER-THAN CLOSED BY CURVE ABOVE SLANTED EQUAL|SMALLER THAN|LARGER THAN",
    "2aac |SMALLER THAN OR EQUAL TO|LARGER THAN OR EQUAL TO|EQUALS SIGN WITH BUMPY ABOVE",
    "2aaf |PRECEDES ABOVE SINGLE-LINE EQUALS SIGN|SUCCEEDS ABOVE SINGLE-LINE EQUALS SIGN",
    "2ab1 |PRECEDES ABOVE SINGLE-LINE NOT EQUAL TO|SUCCEEDS ABOVE SINGLE-LINE NOT EQUAL TO",
    "2ab3 |PRECEDES ABOVE EQUALS SIGN|SUCCEEDS ABOVE EQUALS SIGN|PRECEDES ABOVE NOT EQUAL TO",
    "2ab6 |SUCCEEDS ABOVE NOT EQUAL TO|PRECEDES ABOVE ALMOST EQUAL TO",
    "2ab8 |SUCCEEDS ABOVE ALMOST EQUAL TO|PRECEDES ABOVE NOT ALMOST EQUAL TO",
    "2aba |SUCCEEDS ABOVE NOT ALMOST EQUAL TO|DOUBLE PRECEDES|DOUBLE SUCCEEDS|SUBSET WITH DOT",
    "2abe |SUPERSET WITH DOT|SUBSET WITH PLUS SIGN BELOW|SUPERSET WITH PLUS SIGN BELOW",
    "2ac1 |SUBSET WITH MULTIPLICATION SIGN BELOW|SUPERSET WITH MULTIPLICATION SIGN BELOW",
    "2ac3 |SUBSET OF OR EQUAL TO WITH DOT ABOVE|SUPERSET OF OR EQUAL TO WITH DOT ABOVE",
    "2ac5 |SUBSET OF ABOVE EQUALS SIGN|SUPERSET OF ABOVE EQUALS SIGN",
    "2ac7 |SUBSET OF ABOVE TILDE OPERATOR|SUPERSET OF ABOVE TILDE OPERATOR",
    "2ac9 |SUBSET OF ABOVE ALMOST EQUAL TO|SUPERSET OF ABOVE ALMOST EQUAL TO",
    "2acb |SUBSET OF ABOVE NOT EQUAL TO|SUPERSET OF ABOVE NOT EQUAL TO",
    "2acd SQUARE |LEFT OPEN BOX OPERATOR|RIGHT OPEN BOX OPERATOR",
    "2acf CLOSED |SUBSET|SUPERSET|SUBSET OR EQUAL TO|SUPERSET OR EQUAL TO",
    "2ad3 |SUBSET ABOVE SUPERSET|SUPERSET ABOVE SUBSET|SUBSET ABOVE SUBSET",
    "2ad6 SUPERSET |ABOVE SUPERSET|BESIDE SUBSET|BESIDE AND JOINED BY DASH WITH SUBSET",
    "2ad9 |ELEMENT OF OPENING DOWNWARDS|PITCHFORK WITH TEE TOP|TRANSVERSAL INTERSECTION",
    "2adc |FORKING|NONFORKING|SHORT LEFT TACK|SHORT DOWN TACK|SHORT UP TACK|PERPENDICULAR WITH S",
    "2ae2 |VERTICAL BAR TRIPLE RIGHT TURNSTILE|DOUBLE VERTICAL BAR LEFT TURNSTILE",
    "2ae4 |VERTICAL BAR DOUBLE LEFT TURNSTILE|DOUBLE VERTICAL BAR DOUBLE LEFT TURNSTILE",
    "2ae6 |LONG DASH FROM LEFT MEMBER OF DOUBLE VERTICAL|SHORT DOWN TACK WITH OVERBAR",
    "2ae8 SHORT UP TACK |WITH UNDERBAR|ABOVE SHORT DOWN TACK",
    "2aea DOUBLE |DOWN TACK|UP TACK|STROKE NOT SIGN",
    "2aed |REVERSED DOUBLE STROKE NOT SIGN|DOES NOT DIVIDE WITH REVERSED NEGATION SLASH",
    "2aef VERTICAL LINE WITH CIRCLE |ABOVE|BELOW",
    "2af1 |DOWN TACK WITH CIRCLE BELOW",
    "2af2 PARALLEL WITH |HORIZONTAL STROKE|TILDE OPERATOR",
    "2af4 TRIPLE VERTICAL BAR |BINARY RELATION|WITH HORIZONTAL STROKE",
    "2af6 TRIPLE |COLON OPERATOR|NESTED LESS-THAN|NESTED GREATER-THAN",
    "2af9 DOUBLE-LINE SLANTED |LESS-THAN OR EQUAL TO|GREATER-THAN OR EQUAL TO",
    "2afb |TRIPLE SOLIDUS BINARY RELATION|LARGE TRIPLE VERTICAL BAR OPERATOR",
    "2afd |DOUBLE SOLIDUS OPERATOR|WHITE VERTICAL BAR|N-ARY WHITE VERTICAL BAR",
    "2b00 NORTH |EAST WHITE ARROW|WEST WHITE ARROW",
    "2b02 |SOUTH EAST WHITE ARROW|SOUTH WEST WHITE ARROW|LEFT RIGHT WHITE ARROW",
    "2b05 |LEFTWARDS BLACK ARROW|UPWARDS BLACK ARROW|DOWNWARDS BLACK ARROW",
    "2b08 |NORTH EAST BLACK ARROW|NORTH WEST BLACK ARROW|SOUTH EAST BLACK ARROW",
    "2b0b |SOUTH WEST BLACK ARROW|LEFT RIGHT BLACK ARROW|UP DOWN BLACK ARROW",
    "2b0e RIGHTWARDS ARROW WITH TIP |DOWNWARDS|UPWARDS",
    "2b10 LEFTWARDS ARROW WITH TIP |DOWNWARDS|UPWARDS",
    "2b12 SQUARE WITH |TOP HALF BLACK|BOTTOM HALF BLACK",
    "2b14 SQUARE WITH |UPPER RIGHT DIAGONAL HALF BLACK|LOWER LEFT DIAGONAL HALF BLACK",
    "2b16 DIAMOND WITH |LEFT HALF BLACK|RIGHT HALF BLACK|TOP HALF BLACK|BOTTOM HALF BLACK",
    "2b1a |DOTTED SQUARE|BLACK LARGE SQUARE|WHITE LARGE SQUARE|BLACK VERY SMALL SQUARE",
    "2b1e |WHITE VERY SMALL SQUARE|BLACK PENTAGON|WHITE PENTAGON|WHITE HEXAGON|BLACK HEXAGON",
    "2b23 |HORIZONTAL BLACK HEXAGON|BLACK LARGE CIRCLE|BLACK MEDIUM DIAMOND|WHITE MEDIUM DIAMOND",
    "2b27 |BLACK MEDIUM LOZENGE|WHITE MEDIUM LOZENGE|BLACK SMALL DIAMOND|BLACK SMALL LOZENGE",
    "2b2b |WHITE SMALL LOZENGE|BLACK HORIZONTAL ELLIPSE|WHITE HORIZONTAL ELLIPSE",
    "2b2e |BLACK VERTICAL ELLIPSE|WHITE VERTICAL ELLIPSE|LEFT ARROW WITH SMALL CIRCLE",
    "2b31 |THREE LEFTWARDS ARROWS|LEFT ARROW WITH CIRCLED PLUS|LONG LEFTWARDS SQUIGGLE ARROW",
    "2b34 LEFTWARDS TWO-HEADED ARROW |WITH VERTICAL STROKE|WITH DOUBLE VERTICAL STROKE|FROM BAR",
    "2b37 LEFTWARDS |TWO-HEADED TRIPLE DASH ARROW|ARROW WITH DOTTED STEM",
    "2b39 LEFTWARDS ARROW WITH TAIL WITH |VERTICAL STROKE|DOUBLE VERTICAL STROKE",
    "2b3b |LEFTWARDS TWO-HEADED ARROW WITH TAIL",
    "2b3c LEFTWARDS TWO-HEADED ARROW WITH TAIL WITH |VERTICAL STROKE|DOUBLE VERTICAL STROKE",
    "2b3e |LEFTWARDS ARROW THROUGH X|WAVE ARROW POINTING DIRECTLY LEFT",
    "2b40 |EQUALS SIGN ABOVE LEFTWARDS ARROW|REVERSE TILDE OPERATOR ABOVE LEFTWARDS ARROW",
    "2b42 |LEFTWARDS ARROW ABOVE REVERSE ALMOST EQUAL TO",
    "2b43 RIGHTWARDS ARROW THROUGH |GREATER-THAN|SUPERSET",
    "2b45 |LEFTWARDS QUADRUPLE ARROW",
    "2b46 |RIGHTWARDS QUADRUPLE ARROW|REVERSE TILDE OPERATOR ABOVE RIGHTWARDS ARROW",
    "2b48 |RIGHTWARDS ARROW ABOVE REVERSE ALMOST EQUAL TO|TILDE OPERATOR ABOVE LEFTWARDS ARROW",
    "2b4a LEFTWARDS ARROW ABOVE |ALMOST EQUAL TO|REVERSE TILDE OPERATOR",
    "2b4c |RIGHTWARDS ARROW ABOVE REVERSE TILDE OPERATOR|DOWNWARDS TRIANGLE-HEADED ZIGZAG ARROW",
    "2b4e SHORT |SLANTED NORTH ARROW|BACKSLANTED SOUTH ARROW",
    "2b50 |WHITE MEDIUM STAR|BLACK SMALL STAR|WHITE SMALL STAR",
    "2b53 |BLACK RIGHT-POINTING PENTAGON|WHITE RIGHT-POINTING PENTAGON|HEAVY LARGE CIRCLE",
    "2b56 HEAVY |OVAL WITH OVAL INSIDE|CIRCLE WITH CIRCLE INSIDE|CIRCLE|CIRCLED SALTIRE",
    "2b5a |SLANTED NORTH ARROW WITH HOOKED HEAD|BACKSLANTED SOUTH ARROW WITH HOOKED TAIL",
    "2b5c |SLANTED NORTH ARROW WITH HORIZONTAL TAIL|BACKSLANTED SOUTH ARROW WITH HORIZONTAL TAIL",
    "2b5e |BENT ARROW POINTING DOWNWARDS THEN NORTH EAST",
    "2b5f |SHORT BENT ARROW POINTING DOWNWARDS THEN NORTH EAST|LEFTWARDS TRIANGLE-HEADED ARROW",
    "2b61 |UPWARDS TRIANGLE-HEADED ARROW|RIGHTWARDS TRIANGLE-HEADED ARROW",
    "2b63 |DOWNWARDS TRIANGLE-HEADED ARROW|LEFT RIGHT TRIANGLE-HEADED ARROW",
    "2b65 |UP DOWN TRIANGLE-HEADED ARROW|NORTH WEST TRIANGLE-HEADED ARROW",
    "2b67 |NORTH EAST TRIANGLE-HEADED ARROW|SOUTH EAST TRIANGLE-HEADED ARROW",
    "2b69 |SOUTH WEST TRIANGLE-HEADED ARROW|LEFTWARDS TRIANGLE-HEADED DASHED ARROW",
    "2b6b |UPWARDS TRIANGLE-HEADED DASHED ARROW|RIGHTWARDS TRIANGLE-HEADED DASHED ARROW",
    "2b6d |DOWNWARDS TRIANGLE-HEADED DASHED ARROW|CLOCKWISE TRIANGLE-HEADED OPEN CIRCLE ARROW",
    "2b6f |ANTICLOCKWISE TRIANGLE-HEADED OPEN CIRCLE ARROW",
    "2b70 |LEFTWARDS TRIANGLE-HEADED ARROW TO BAR|UPWARDS TRIANGLE-HEADED ARROW TO BAR",
    "2b72 |RIGHTWARDS TRIANGLE-HEADED ARROW TO BAR|DOWNWARDS TRIANGLE-HEADED ARROW TO BAR",
    "2b76 NORTH |WEST TRIANGLE-HEADED ARROW TO BAR|EAST TRIANGLE-HEADED ARROW TO BAR",
    "2b78 SOUTH |EAST TRIANGLE-HEADED ARROW TO BAR|WEST TRIANGLE-HEADED ARROW TO BAR",
    "2b7a |LEFTWARDS TRIANGLE-HEADED ARROW WITH DOUBLE HORIZONTAL STROKE",
    "2b7b |UPWARDS TRIANGLE-HEADED ARROW WITH DOUBLE HORIZONTAL STROKE",
    "2b7c |RIGHTWARDS TRIANGLE-HEADED ARROW WITH DOUBLE HORIZONTAL STROKE",
    "2b7d |DOWNWARDS TRIANGLE-HEADED ARROW WITH DOUBLE HORIZONTAL STROKE",
    "2b7e |HORIZONTAL TAB KEY|VERTICAL TAB KEY",
    "2b80 |LEFTWARDS TRIANGLE-HEADED ARROW OVER RIGHTWARDS TRIANGLE-HEADED ARROW",
    "2b81 |UPWARDS TRIANGLE-HEADED ARROW LEFTWARDS OF DOWNWARDS TRIANGLE-HEADED ARROW",
    "2b82 |RIGHTWARDS TRIANGLE-HEADED ARROW OVER LEFTWARDS TRIANGLE-HEADED ARROW",
    "2b83 |DOWNWARDS TRIANGLE-HEADED ARROW LEFTWARDS OF UPWARDS TRIANGLE-HEADED ARROW",
    "2b84 |LEFTWARDS TRIANGLE-HEADED PAIRED ARROWS|UPWARDS TRIANGLE-HEADED PAIRED ARROWS",
    "2b86 |RIGHTWARDS TRIANGLE-HEADED PAIRED ARROWS|DOWNWARDS TRIANGLE-HEADED PAIRED ARROWS",
    "2b88 |LEFTWARDS BLACK CIRCLED WHITE ARROW|UPWARDS BLACK CIRCLED WHITE ARROW",
    "2b8a |RIGHTWARDS BLACK CIRCLED WHITE ARROW|DOWNWARDS BLACK CIRCLED WHITE ARROW",
    "2b8c ANTICLOCKWISE TRIANGLE-HEADED |RIGHT U-SHAPED ARROW|BOTTOM U-SHAPED ARROW",
    "2b8e ANTICLOCKWISE TRIANGLE-HEADED |LEFT U-SHAPED ARROW|TOP U-SHAPED ARROW",
    "2b90 RETURN |LEFT|RIGHT",
    "2b92 NEWLINE |LEFT|RIGHT",
    "2b94 |FOUR CORNER ARROWS CIRCLING ANTICLOCKWISE|RIGHTWARDS BLACK ARROW",
    "2b97 |SYMBOL FOR TYPE A ELECTRONICS|THREE-D TOP-LIGHTED LEFTWARDS EQUILATERAL ARROWHEAD",
    "2b99 |THREE-D RIGHT-LIGHTED UPWARDS EQUILATERAL ARROWHEAD",
    "2b9a |THREE-D TOP-LIGHTED RIGHTWARDS EQUILATERAL ARROWHEAD",
    "2b9b |THREE-D LEFT-LIGHTED DOWNWARDS EQUILATERAL ARROWHEAD",
    "2b9c BLACK |LEFTWARDS EQUILATERAL ARROWHEAD|UPWARDS EQUILATERAL ARROWHEAD",
    "2b9e BLACK |RIGHTWARDS EQUILATERAL ARROWHEAD|DOWNWARDS EQUILATERAL ARROWHEAD",
    "2ba0 DOWNWARDS TRIANGLE-HEADED ARROW WITH LONG TIP |LEFTWARDS|RIGHTWARDS",
    "2ba2 UPWARDS TRIANGLE-HEADED ARROW WITH LONG TIP |LEFTWARDS|RIGHTWARDS",
    "2ba4 |LEFTWARDS TRIANGLE-HEADED ARROW WITH LONG TIP UPWARDS",
    "2ba5 |RIGHTWARDS TRIANGLE-HEADED ARROW WITH LONG TIP UPWARDS",
    "2ba6 |LEFTWARDS TRIANGLE-HEADED ARROW WITH LONG TIP DOWNWARDS",
    "2ba7 |RIGHTWARDS TRIANGLE-HEADED ARROW WITH LONG TIP DOWNWARDS",
    "2ba8 BLACK CURVED DOWNWARDS AND |LEFTWARDS ARROW|RIGHTWARDS ARROW",
    "2baa BLACK CURVED UPWARDS AND |LEFTWARDS ARROW|RIGHTWARDS ARROW",
    "2bac BLACK CURVED |LEFTWARDS AND UPWARDS ARROW|RIGHTWARDS AND UPWARDS ARROW",
    "2bae BLACK CURVED |LEFTWARDS AND DOWNWARDS ARROW|RIGHTWARDS AND DOWNWARDS ARROW",
    "2bb0 RIBBON ARROW DOWN |LEFT|RIGHT",
    "2bb2 RIBBON ARROW |UP LEFT|UP RIGHT|LEFT UP|RIGHT UP|LEFT DOWN|RIGHT DOWN",
    "2bb8 |UPWARDS WHITE ARROW FROM BAR WITH HORIZONTAL BAR|UP ARROWHEAD IN A RECTANGLE BOX",
    "2bba OVERLAPPING |WHITE SQUARES|WHITE AND BLACK SQUARES|BLACK SQUARES",
    "2bbd |BALLOT BOX WITH LIGHT X|CIRCLED X|CIRCLED BOLD X|BLACK SQUARE CENTRED",
    "2bc1 |BLACK DIAMOND CENTRED|TURNED BLACK PENTAGON|HORIZONTAL BLACK OCTAGON|BLACK OCTAGON",
    "2bc5 BLACK MEDIUM |UP-POINTING TRIANGLE CENTRED|DOWN-POINTING TRIANGLE CENTRED",
    "2bc7 BLACK MEDIUM |LEFT-POINTING TRIANGLE CENTRED|RIGHT-POINTING TRIANGLE CENTRED",
    "2bc9 |NEPTUNE FORM TWO",
    "2bca |TOP HALF BLACK CIRCLE|BOTTOM HALF BLACK CIRCLE|LIGHT FOUR POINTED BLACK CUSP",
    "2bcd |ROTATED LIGHT FOUR POINTED BLACK CUSP|WHITE FOUR POINTED CUSP",
    "2bcf |ROTATED WHITE FOUR POINTED CUSP|SQUARE POSITION INDICATOR|UNCERTAINTY SIGN|GROUP MARK",
    "2bd3 PLUTO FORM |TWO|THREE|FOUR|FIVE",
    "2bd7 |TRANSPLUTO|PROSERPINA|ASTRAEA|HYGIEA|PHOLUS|NESSUS",
    "2bdd |WHITE MOON SELENA|BLACK DIAMOND ON CROSS|TRUE LIGHT MOON ARTA|CUPIDO|HADES|ZEUS",
    "2be3 |KRONOS|APOLLON|ADMETOS|VULCANUS|POSEIDON|LEFT HALF BLACK STAR|RIGHT HALF BLACK STAR",
    "2bea STAR WITH |LEFT HALF BLACK|RIGHT HALF BLACK",
    "2bec |LEFTWARDS TWO-HEADED ARROW WITH TRIANGLE ARROWHEADS",
    "2bed |UPWARDS TWO-HEADED ARROW WITH TRIANGLE ARROWHEADS",
    "2bee |RIGHTWARDS TWO-HEADED ARROW WITH TRIANGLE ARROWHEADS",
    "2bef |DOWNWARDS TWO-HEADED ARROW WITH TRIANGLE ARROWHEADS|ERIS FORM ONE|ERIS FORM TWO|SEDNA",
    "2bf3 RUSSIAN ASTROLOGICAL SYMBOL |VIGINTILE|NOVILE|QUINTILE|BINOVILE|SENTAGON|TREDECILE",
    "2bf9 |EQUALS SIGN WITH INFINITY BELOW|UNITED SYMBOL|SEPARATED SYMBOL",
    "2bfc |DOUBLED SYMBOL|PASSED SYMBOL|REVERSED RIGHT ANGLE|HELLSCHREIBER PAUSE SYMBOL",
    "2c00 GLAGOLITIC CAPITAL LETTER |AZU|BUKY|VEDE|GLAGOLI|DOBRO|YESTU|ZHIVETE",
    "2c07 GLAGOLITIC CAPITAL LETTER |DZELO|ZEMLJA|IZHE|INITIAL IZHE|I|DJERVI|KAKO|LJUDIJE",
    "2c0f GLAGOLITIC CAPITAL LETTER |MYSLITE|NASHI|ONU|POKOJI|RITSI|SLOVO|TVRIDO|UKU|FRITU|HERU",
    "2c19 GLAGOLITIC CAPITAL LETTER |OTU|PE|SHTA|TSI|CHRIVI|SHA|YERU|YERI|YATI|SPIDERY HA|YU",
    "2c24 GLAGOLITIC CAPITAL LETTER SMALL |YUS|YUS WITH TAIL",
    "2c26 GLAGOLITIC CAPITAL LETTER |YO|IOTATED SMALL YUS|BIG YUS|IOTATED BIG YUS|FITA|IZHITSA",
    "2c2c GLAGOLITIC CAPITAL LETTER |SHTAPIC|TROKUTASTI A|LATINATE MYSLITE|CAUDATE CHRIVI",
    "2c30 GLAGOLITIC SMALL LETTER |AZU|BUKY|VEDE|GLAGOLI|DOBRO|YESTU|ZHIVETE|DZELO|ZEMLJA|IZHE",
    "2c3a GLAGOLITIC SMALL LETTER |INITIAL IZHE|I|DJERVI|KAKO|LJUDIJE|MYSLITE|NASHI|ONU|POKOJI",
    "2c43 GLAGOLITIC SMALL LETTER |RITSI|SLOVO|TVRIDO|UKU|FRITU|HERU|OTU|PE|SHTA|TSI|CHRIVI|SHA",
    "2c4f GLAGOLITIC SMALL LETTER |YERU|YERI|YATI|SPIDERY HA|YU|SMALL YUS|SMALL YUS WITH TAIL",
    "2c56 GLAGOLITIC SMALL LETTER |YO|IOTATED SMALL YUS|BIG YUS|IOTATED BIG YUS|FITA",
    "2c5b GLAGOLITIC SMALL LETTER |IZHITSA|SHTAPIC|TROKUTASTI A|LATINATE MYSLITE|CAUDATE CHRIVI",
    "2c60 LATIN |CAPITAL LETTER L WITH DOUBLE BAR|SMALL LETTER L WITH DOUBLE BAR",
    "2c62 LATIN CAPITAL LETTER |L WITH MIDDLE TILDE|P WITH STROKE|R WITH TAIL",
    "2c65 LATIN SMALL LETTER |A WITH STROKE|T WITH DIAGONAL STROKE",
    "2c67 LATIN |CAPITAL LETTER H WITH DESCENDER|SMALL LETTER H WITH DESCENDER",
    "2c69 LATIN |CAPITAL LETTER K WITH DESCENDER|SMALL LETTER K WITH DESCENDER",
    "2c6b LATIN |CAPITAL LETTER Z WITH DESCENDER|SMALL LETTER Z WITH DESCENDER",
    "2c6d LATIN CAPITAL LETTER |ALPHA|M WITH HOOK|TURNED A|TURNED ALPHA",
    "2c71 LATIN |SMALL LETTER V WITH RIGHT HOOK|CAPITAL LETTER W WITH HOOK",
    "2c73 LATIN |SMALL LETTER W WITH HOOK|SMALL LETTER V WITH CURL|CAPITAL LETTER HALF H",
    "2c76 LATIN SMALL LETTER |HALF H|TAILLESS PHI|E WITH NOTCH|TURNED R WITH TAIL",
    "2c7a LATIN |SMALL LETTER O WITH LOW RING INSIDE|LETTER SMALL CAPITAL TURNED E",
    "2c7c |LATIN SUBSCRIPT SMALL LETTER J|MODIFIER LETTER CAPITAL V",
    "2c7e LATIN CAPITAL LETTER |S WITH SWASH TAIL|Z WITH SWASH TAIL",
    "2c80 COPTIC |CAPITAL LETTER ALFA|SMALL LETTER ALFA|CAPITAL LETTER VIDA",
    "2c83 COPTIC |SMALL LETTER VIDA|CAPITAL LETTER GAMMA|SMALL LETTER GAMMA|CAPITAL LETTER DALDA",
    "2c87 COPTIC |SMALL LETTER DALDA|CAPITAL LETTER EIE|SMALL LETTER EIE|CAPITAL LETTER SOU",
    "2c8b COPTIC |SMALL LETTER SOU|CAPITAL LETTER ZATA|SMALL LETTER ZATA|CAPITAL LETTER HATE",
    "2c8f COPTIC |SMALL LETTER HATE|CAPITAL LETTER THETHE|SMALL LETTER THETHE",
    "2c92 COPTIC |CAPITAL LETTER IAUDA|SMALL LETTER IAUDA|CAPITAL LETTER KAPA",
    "2c95 COPTIC |SMALL LETTER KAPA|CAPITAL LETTER LAULA|SMALL LETTER LAULA|CAPITAL LETTER MI",
    "2c99 COPTIC |SMALL LETTER MI|CAPITAL LETTER NI|SMALL LETTER NI|CAPITAL LETTER KSI",
    "2c9d COPTIC |SMALL LETTER KSI|CAPITAL LETTER O|SMALL LETTER O|CAPITAL LETTER PI",
    "2ca1 COPTIC |SMALL LETTER PI|CAPITAL LETTER RO|SMALL LETTER RO|CAPITAL LETTER SIMA",
    "2ca5 COPTIC |SMALL LETTER SIMA|CAPITAL LETTER TAU|SMALL LETTER TAU|CAPITAL LETTER UA",
    "2ca9 COPTIC |SMALL LETTER UA|CAPITAL LETTER FI|SMALL LETTER FI|CAPITAL LETTER KHI",
    "2cad COPTIC |SMALL LETTER KHI|CAPITAL LETTER PSI|SMALL LETTER PSI|CAPITAL LETTER OOU",
    "2cb1 COPTIC |SMALL LETTER OOU|CAPITAL LETTER DIALECT-P ALEF|SMALL LETTER DIALECT-P ALEF",
    "2cb4 COPTIC |CAPITAL LETTER OLD COPTIC AIN|SMALL LETTER OLD COPTIC AIN",
    "2cb6 COPTIC |CAPITAL LETTER CRYPTOGRAMMIC EIE|SMALL LETTER CRYPTOGRAMMIC EIE",
    "2cb8 COPTIC |CAPITAL LETTER DIALECT-P KAPA|SMALL LETTER DIALECT-P KAPA",
    "2cba COPTIC |CAPITAL LETTER DIALECT-P NI|SMALL LETTER DIALECT-P NI",
    "2cbc COPTIC |CAPITAL LETTER CRYPTOGRAMMIC NI|SMALL LETTER CRYPTOGRAMMIC NI",
    "2cbe COPTIC |CAPITAL LETTER OLD COPTIC OOU|SMALL LETTER OLD COPTIC OOU",
    "2cc0 COPTIC |CAPITAL LETTER SAMPI|SMALL LETTER SAMPI|CAPITAL LETTER CROSSED SHEI",
    "2cc3 COPTIC |SMALL LETTER CROSSED SHEI|CAPITAL LETTER OLD COPTIC SHEI",
    "2cc5 COPTIC |SMALL LETTER OLD COPTIC SHEI|CAPITAL LETTER OLD COPTIC ESH",
    "2cc7 COPTIC |SMALL LETTER OLD COPTIC ESH|CAPITAL LETTER AKHMIMIC KHEI",
    "2cc9 COPTIC |SMALL LETTER AKHMIMIC KHEI|CAPITAL LETTER DIALECT-P HORI",
    "2ccb COPTIC |SMALL LETTER DIALECT-P HORI|CAPITAL LETTER OLD COPTIC HORI",
    "2ccd COPTIC |SMALL LETTER OLD COPTIC HORI|CAPITAL LETTER OLD COPTIC HA",
    "2ccf COPTIC |SMALL LETTER OLD COPTIC HA|CAPITAL LETTER L-SHAPED HA|SMALL LETTER L-SHAPED HA",
    "2cd2 COPTIC |CAPITAL LETTER OLD COPTIC HEI|SMALL LETTER OLD COPTIC HEI",
    "2cd4 COPTIC |CAPITAL LETTER OLD COPTIC HAT|SMALL LETTER OLD COPTIC HAT",
    "2cd6 COPTIC |CAPITAL LETTER OLD COPTIC GANGIA|SMALL LETTER OLD COPTIC GANGIA",
    "2cd8 COPTIC |CAPITAL LETTER OLD COPTIC DJA|SMALL LETTER OLD COPTIC DJA",
    "2cda COPTIC |CAPITAL LETTER OLD COPTIC SHIMA|SMALL LETTER OLD COPTIC SHIMA",
    "2cdc COPTIC |CAPITAL LETTER OLD NUBIAN SHIMA|SMALL LETTER OLD NUBIAN SHIMA",
    "2cde COPTIC |CAPITAL LETTER OLD NUBIAN NGI|SMALL LETTER OLD NUBIAN NGI",
    "2ce0 COPTIC |CAPITAL LETTER OLD NUBIAN NYI|SMALL LETTER OLD NUBIAN NYI",
    "2ce2 COPTIC |CAPITAL LETTER OLD NUBIAN WAU|SMALL LETTER OLD NUBIAN WAU",
    "2ce4 COPTIC SYMBOL |KAI|MI RO|PI RO|STAUROS|TAU RO|KHI RO|SHIMA SIMA",
    "2ceb COPTIC |CAPITAL LETTER CRYPTOGRAMMIC SHEI|SMALL LETTER CRYPTOGRAMMIC SHEI",
    "2ced COPTIC |CAPITAL LETTER CRYPTOGRAMMIC GANGIA|SMALL LETTER CRYPTOGRAMMIC GANGIA",
    "2cef COPTIC COMBINING |NI ABOVE|SPIRITUS ASPER|SPIRITUS LENIS",
    "2cf2 COPTIC |CAPITAL LETTER BOHAIRIC KHEI|SMALL LETTER BOHAIRIC KHEI",
    "2cf9 COPTIC OLD NUBIAN |FULL STOP|DIRECT QUESTION MARK|INDIRECT QUESTION MARK|VERSE DIVIDER",
    "2cfd COPTIC |FRACTION ONE HALF|FULL STOP|MORPHOLOGICAL DIVIDER",
    "2d00 GEORGIAN SMALL LETTER |AN|BAN|GAN|DON|EN|VIN|ZEN|TAN",
    "2d08 GEORGIAN SMALL LETTER |IN|KAN|LAS|MAN|NAR|ON|PAR|ZHAR|RAE|SAN|TAR|UN|PHAR|KHAR|GHAN",
    "2d17 GEORGIAN SMALL LETTER |QAR|SHIN|CHIN|CAN|JIL|CIL|CHAR|XAN|JHAN|HAE|HE|HIE|WE|HAR|HOE",
    "2d27 |GEORGIAN SMALL LETTER YN",
    "2d2d |GEORGIAN SMALL LETTER AEN",
    "2d30 TIFINAGH LETTER |YA|YAB|YABH|YAG|YAGHH",
    "2d35 TIFINAGH LETTER |BERBER ACADEMY YAJ|YAJ|YAD|YADH|YADD|YADDH|YEY|YAF|YAK|TUAREG YAK",
    "2d3f TIFINAGH LETTER |YAKHH|YAH|BERBER ACADEMY YAH|TUAREG YAH|YAHH|YAA|YAKH|TUAREG YAKH|YAQ",
    "2d48 TIFINAGH LETTER |TUAREG YAQ|YI|YAZH|AHAGGAR YAZH|TUAREG YAZH|YAL|YAM|YAN|TUAREG YAGN",
    "2d51 TIFINAGH LETTER |TUAREG YANG|YAP|YU|YAR|YARR|YAGH|TUAREG YAGH|AYER YAGH|YAS|YASS",
    "2d5b TIFINAGH LETTER |YASH|YAT|YATH|YACH|YATT|YAV|YAW|YAY|YAZ|TAWELLEMET YAZ|YAZZ|YE|YO",
    "2d6f TIFINAGH |MODIFIER LETTER LABIALIZATION MARK|SEPARATOR MARK",
    "2d7f |TIFINAGH CONSONANT JOINER",
    "2d80 ETHIOPIC SYLLABLE |LOA|MOA|ROA|SOA|SHOA|BOA|TOA|COA|NOA|NYOA",
    "2d8a ETHIOPIC SYLLABLE |GLOTTAL OA|ZOA|DOA|DDOA|JOA|THOA|CHOA|PHOA|POA|GGWA|GGWI|GGWEE|GGWE",
    "2da0 ETHIOPIC SYLLABLE |SSA|SSU|SSI|SSAA|SSEE|SSE|SSO",
    "2da8 ETHIOPIC SYLLABLE |CCA|CCU|CCI|CCAA|CCEE|CCE|CCO",
    "2db0 ETHIOPIC SYLLABLE |ZZA|ZZU|ZZI|ZZAA|ZZEE|ZZE|ZZO",
    "2db8 ETHIOPIC SYLLABLE |CCHA|CCHU|CCHI|CCHAA|CCHEE|CCHE|CCHO",
    "2dc0 ETHIOPIC SYLLABLE |QYA|QYU|QYI|QYAA|QYEE|QYE|QYO",
    "2dc8 ETHIOPIC SYLLABLE |KYA|KYU|KYI|KYAA|KYEE|KYE|KYO",
    "2dd0 ETHIOPIC SYLLABLE |XYA|XYU|XYI|XYAA|XYEE|XYE|XYO",
    "2dd8 ETHIOPIC SYLLABLE |GYA|GYU|GYI|GYAA|GYEE|GYE|GYO",
    "2de0 COMBINING CYRILLIC LETTER |BE|VE|GHE|DE|ZHE|ZE|KA|EL|EM|EN|O|PE|ER|ES",
    "2dee COMBINING CYRILLIC LETTER |TE|HA|TSE|CHE|SHA|SHCHA|FITA|ES-TE|A|IE|DJERV|MONOGRAPH UK",
    "2dfa COMBINING CYRILLIC LETTER |YAT|YU|IOTIFIED A|LITTLE YUS|BIG YUS|IOTIFIED BIG YUS",
    "2e00 RIGHT ANGLE |SUBSTITUTION MARKER|DOTTED SUBSTITUTION MARKER",
    "2e02 |LEFT SUBSTITUTION BRACKET|RIGHT SUBSTITUTION BRACKET|LEFT DOTTED SUBSTITUTION BRACKET",
    "2e05 |RIGHT DOTTED SUBSTITUTION BRACKET|RAISED INTERPOLATION MARKER",
    "2e07 |RAISED DOTTED INTERPOLATION MARKER|DOTTED TRANSPOSITION MARKER",
    "2e09 |LEFT TRANSPOSITION BRACKET|RIGHT TRANSPOSITION BRACKET|RAISED SQUARE",
    "2e0c |LEFT RAISED OMISSION BRACKET|RIGHT RAISED OMISSION BRACKET|EDITORIAL CORONIS",
    "2e0f |PARAGRAPHOS|FORKED PARAGRAPHOS|REVERSED FORKED PARAGRAPHOS|HYPODIASTOLE",
    "2e13 |DOTTED OBELOS|DOWNWARDS ANCORA|UPWARDS ANCORA|DOTTED RIGHT-POINTING ANGLE",
    "2e17 |DOUBLE OBLIQUE HYPHEN|INVERTED INTERROBANG|PALM BRANCH|HYPHEN WITH DIAERESIS",
    "2e1b |TILDE WITH RING ABOVE|LEFT LOW PARAPHRASE BRACKET|RIGHT LOW PARAPHRASE BRACKET",
    "2e1e TILDE WITH DOT |ABOVE|BELOW",
    "2e20 |LEFT VERTICAL BAR WITH QUILL|RIGHT VERTICAL BAR WITH QUILL",
    "2e22 |TOP LEFT HALF BRACKET|TOP RIGHT HALF BRACKET|BOTTOM LEFT HALF BRACKET",
    "2e25 |BOTTOM RIGHT HALF BRACKET|LEFT SIDEWAYS U BRACKET|RIGHT SIDEWAYS U BRACKET",
    "2e28 |LEFT DOUBLE PARENTHESIS|RIGHT DOUBLE PARENTHESIS|TWO DOTS OVER ONE DOT PUNCTUATION",
    "2e2b |ONE DOT OVER TWO DOTS PUNCTUATION|SQUARED FOUR DOT PUNCTUATION",
    "2e2d |FIVE DOT MARK|REVERSED QUESTION MARK|VERTICAL TILDE|RING POINT",
    "2e31 |WORD SEPARATOR MIDDLE DOT|TURNED COMMA|RAISED DOT|RAISED COMMA|TURNED SEMICOLON",
    "2e36 DAGGER WITH |LEFT GUARD|RIGHT GUARD",
    "2e38 |TURNED DAGGER|TOP HALF SECTION SIGN|TWO-EM DASH|THREE-EM DASH|STENOGRAPHIC FULL STOP",
    "2e3d |VERTICAL SIX DOTS|WIGGLY VERTICAL LINE|CAPITULUM|DOUBLE HYPHEN|REVERSED COMMA",
    "2e42 |DOUBLE LOW-REVERSED-9 QUOTATION MARK|DASH WITH LEFT UPTURN|DOUBLE SUSPENSION MARK",
    "2e45 INVERTED LOW |KAVYKA|KAVYKA WITH KAVYKA ABOVE",
    "2e47 |LOW KAVYKA|LOW KAVYKA WITH DOT|DOUBLE STACKED COMMA|DOTTED SOLIDUS|TRIPLE DAGGER",
    "2e4c |MEDIEVAL COMMA|PARAGRAPHUS MARK|PUNCTUS ELEVATUS MARK|CORNISH VERSE DIVIDER",
    "2e50 CROSS PATTY WITH |RIGHT CROSSBAR|LEFT CROSSBAR",
    "2e52 |TIRONIAN SIGN CAPITAL ET|MEDIEVAL EXCLAMATION MARK|MEDIEVAL QUESTION MARK",
    "2e55 |LEFT SQUARE BRACKET WITH STROKE|RIGHT SQUARE BRACKET WITH STROKE",
    "2e57 |LEFT SQUARE BRACKET WITH DOUBLE STROKE|RIGHT SQUARE BRACKET WITH DOUBLE STROKE",
    "2e59 TOP HALF |LEFT PARENTHESIS|RIGHT PARENTHESIS",
    "2e5b |BOTTOM HALF LEFT PARENTHESIS|BOTTOM HALF RIGHT PARENTHESIS|OBLIQUE HYPHEN",
    "2e80 CJK RADICAL |REPEAT|CLIFF|SECOND ONE|SECOND TWO|SECOND THREE",
    "2e85 CJK RADICAL |PERSON|BOX|TABLE|KNIFE ONE|KNIFE TWO|DIVINATION|SEAL|SMALL ONE|SMALL TWO",
    "2e8e CJK RADICAL LAME |ONE|TWO|THREE|FOUR",
    "2e92 CJK RADICAL |SNAKE|THREAD|SNOUT ONE|SNOUT TWO|HEART ONE|HEART TWO|HAND|RAP",
    "2e9b CJK RADICAL |CHOKE|SUN|MOON|DEATH|MOTHER|CIVILIAN|WATER ONE|WATER TWO|FIRE",
    "2ea4 CJK RADICAL |PAW ONE|PAW TWO|SIMPLIFIED HALF TREE TRUNK|COW|DOG|JADE|BOLT OF CLOTH",
    "2eab CJK RADICAL |EYE|SPIRIT ONE|SPIRIT TWO|BAMBOO|SILK|C-SIMPLIFIED SILK|NET ONE",
    "2eb2 CJK RADICAL |NET TWO|NET THREE|NET FOUR|MESH|SHEEP|RAM|EWE|OLD|BRUSH ONE|BRUSH TWO",
    "2ebc CJK RADICAL |MEAT|MORTAR|GRASS ONE|GRASS TWO|GRASS THREE|TIGER|CLOTHES|WEST ONE",
    "2ec4 CJK RADICAL |WEST TWO|C-SIMPLIFIED SEE|SIMPLIFIED HORN|HORN|C-SIMPLIFIED SPEECH",
    "2ec9 CJK RADICAL |C-SIMPLIFIED SHELL|FOOT|C-SIMPLIFIED CART|SIMPLIFIED WALK",
    "2ecd CJK RADICAL |WALK ONE|WALK TWO|CITY|C-SIMPLIFIED GOLD|LONG ONE|LONG TWO",
    "2ed3 CJK RADICAL |C-SIMPLIFIED LONG|C-SIMPLIFIED GATE|MOUND ONE|MOUND TWO|RAIN|BLUE",
    "2ed9 CJK RADICAL C-SIMPLIFIED |TANNED LEATHER|LEAF|WIND|FLY",
    "2edd CJK RADICAL EAT |ONE|TWO|THREE",
    "2ee0 CJK RADICAL |C-SIMPLIFIED EAT|HEAD|C-SIMPLIFIED HORSE|BONE|GHOST",
    "2ee5 CJK RADICAL C-SIMPLIFIED |FISH|BIRD|SALT",
    "2ee8 CJK RADICAL SIMPLIFIED |WHEAT|YELLOW",
    "2eea CJK RADICAL |C-SIMPLIFIED FROG|J-SIMPLIFIED EVEN|C-SIMPLIFIED EVEN",
    "2eed CJK RADICAL |J-SIMPLIFIED TOOTH|C-SIMPLIFIED TOOTH|J-SIMPLIFIED DRAGON",
    "2ef0 CJK RADICAL |C-SIMPLIFIED DRAGON|TURTLE|J-SIMPLIFIED TURTLE|C-SIMPLIFIED TURTLE",
    "2f00 KANGXI RADICAL |ONE|LINE",
    "2f02 KANGXI RADICAL |DOT|SLASH|SECOND|HOOK|TWO|LID|MAN|LEGS|ENTER|EIGHT|DOWN BOX|COVER|ICE",
    "2f0f KANGXI RADICAL |TABLE|OPEN BOX|KNIFE|POWER|WRAP|SPOON|RIGHT OPEN BOX|HIDING ENCLOSURE",
    "2f17 KANGXI RADICAL |TEN|DIVINATION|SEAL|CLIFF|PRIVATE|AGAIN|MOUTH|ENCLOSURE",
    "2f1f KANGXI RADICAL |EARTH|SCHOLAR|GO|GO SLOWLY|EVENING|BIG|WOMAN|CHILD|ROOF|INCH|SMALL",
    "2f2a KANGXI RADICAL |LAME|CORPSE|SPROUT|MOUNTAIN|RIVER|WORK|ONESELF|TURBAN|DRY|SHORT THREAD",
    "2f34 KANGXI RADICAL |DOTTED CLIFF|LONG STRIDE|TWO HANDS|SHOOT|BOW|SNOUT|BRISTLE|STEP|HEART",
    "2f3d KANGXI RADICAL |HALBERD|DOOR|HAND|BRANCH|RAP|SCRIPT|DIPPER|AXE|SQUARE|NOT|SUN|SAY|MOON",
    "2f4a KANGXI RADICAL |TREE|LACK|STOP|DEATH|WEAPON|DO NOT|COMPARE|FUR|CLAN|STEAM|WATER|FIRE",
    "2f56 KANGXI RADICAL |CLAW|FATHER|DOUBLE X|HALF TREE TRUNK|SLICE|FANG|COW|DOG|PROFOUND|JADE",
    "2f60 KANGXI RADICAL |MELON|TILE|SWEET|LIFE|USE|FIELD|BOLT OF CLOTH|SICKNESS|DOTTED TENT",
    "2f69 KANGXI RADICAL |WHITE|SKIN|DISH|EYE|SPEAR|ARROW|STONE|SPIRIT|TRACK|GRAIN|CAVE|STAND",
    "2f75 KANGXI RADICAL |BAMBOO|RICE|SILK|JAR|NET|SHEEP|FEATHER|OLD|AND|PLOW|EAR|BRUSH|MEAT",
    "2f82 KANGXI RADICAL |MINISTER|SELF|ARRIVE|MORTAR|TONGUE|OPPOSE|BOAT|STOPPING|COLOR|GRASS",
    "2f8c KANGXI RADICAL |TIGER|INSECT|BLOOD|WALK ENCLOSURE|CLOTHES|WEST|SEE|HORN|SPEECH|VALLEY",
    "2f96 KANGXI RADICAL |BEAN|PIG|BADGER|SHELL|RED|RUN|FOOT|BODY|CART|BITTER|MORNING|WALK|CITY",
    "2fa3 KANGXI RADICAL |WINE|DISTINGUISH|VILLAGE|GOLD|LONG|GATE|MOUND|SLAVE|SHORT TAILED BIRD",
    "2fac KANGXI RADICAL |RAIN|BLUE|WRONG|FACE|LEATHER|TANNED LEATHER|LEEK|SOUND|LEAF",
    "2fb5 KANGXI RADICAL |WIND|FLY|EAT|HEAD|FRAGRANT|HORSE|BONE|TALL|HAIR|FIGHT|SACRIFICIAL WINE",
    "2fc0 KANGXI RADICAL |CAULDRON|GHOST|FISH|BIRD|SALT|DEER|WHEAT|HEMP|YELLOW|MILLET|BLACK",
    "2fcb KANGXI RADICAL |EMBROIDERY|FROG|TRIPOD|DRUM|RAT|NOSE|EVEN|TOOTH|DRAGON|TURTLE|FLUTE",
    "2ff0 IDEOGRAPHIC DESCRIPTION CHARACTER |LEFT TO RIGHT|ABOVE TO BELOW",
    "2ff2 IDEOGRAPHIC DESCRIPTION CHARACTER |LEFT TO MIDDLE AND RIGHT|ABOVE TO MIDDLE AND BELOW",
    "2ff4 IDEOGRAPHIC DESCRIPTION CHARACTER |FULL SURROUND|SURROUND FROM ABOVE",
    "2ff6 IDEOGRAPHIC DESCRIPTION CHARACTER SURROUND FROM |BELOW|LEFT|UPPER LEFT|UPPER RIGHT",
    "2ffa IDEOGRAPHIC DESCRIPTION CHARACTER |SURROUND FROM LOWER LEFT|OVERLAID"]

end Name
end Text
end DebugIndex
