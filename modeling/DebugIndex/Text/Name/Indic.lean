/-!
# The names of the younger and smaller scripts of India

The names that Unicode 14 gives to the code points from U+11000 to U+11FFF.  A row
begins with its first code point and what its names have in common; the endings
of the names of that point and those behind it follow, each after a bar.
-/

namespace DebugIndex
namespace Text
namespace Name

/-- The rows of the table, in ascending order. -/
def indicRows : List String :=
  ["11000 BRAHMI SIGN |CANDRABINDU|ANUSVARA|VISARGA|JIHVAMULIYA|UPADHMANIYA",
    "11005 BRAHMI LETTER |A|AA|I|II|U|UU|VOCALIC R|VOCALIC RR|VOCALIC L|VOCALIC LL",
    "1100f BRAHMI LETTER |E|AI|O|AU|KA|KHA|GA|GHA|NGA|CA|CHA|JA|JHA|NYA|TTA|TTHA|DDA|DDHA",
    "11021 BRAHMI LETTER |NNA|TA|THA|DA|DHA|NA|PA|PHA|BA|BHA|MA|YA|RA|LA|VA|SHA|SSA|SA|HA|LLA",
    "11035 BRAHMI LETTER OLD TAMIL |LLLA|RRA|NNNA",
    "11038 BRAHMI VOWEL SIGN |AA|BHATTIPROLU AA",
    "1103a BRAHMI VOWEL SIGN |I|II|U|UU|VOCALIC R|VOCALIC RR|VOCALIC L|VOCALIC LL|E|AI|O|AU",
    "11046 BRAHMI |VIRAMA|DANDA|DOUBLE DANDA",
    "11049 BRAHMI PUNCTUATION |DOT|DOUBLE DOT|LINE|CRESCENT BAR|LOTUS",
    "11052 BRAHMI NUMBER |ONE|TWO|THREE|FOUR|FIVE|SIX|SEVEN|EIGHT|NINE|TEN|TWENTY",
    "1105d BRAHMI NUMBER |THIRTY|FORTY|FIFTY|SIXTY|SEVENTY|EIGHTY|NINETY|ONE HUNDRED|ONE THOUSAND",
    "11066 BRAHMI DIGIT |ZERO|ONE|TWO|THREE|FOUR|FIVE|SIX|SEVEN|EIGHT|NINE",
    "11070 |BRAHMI SIGN OLD TAMIL VIRAMA",
    "11071 BRAHMI LETTER OLD TAMIL SHORT |E|O",
    "11073 BRAHMI VOWEL SIGN OLD TAMIL SHORT |E|O",
    "11075 |BRAHMI LETTER OLD TAMIL LLA",
    "1107f |BRAHMI NUMBER JOINER",
    "11080 KAITHI SIGN |CANDRABINDU|ANUSVARA|VISARGA",
    "11083 KAITHI LETTER |A|AA|I|II|U|UU",
    "11089 KAITHI LETTER |E|AI|O|AU|KA|KHA|GA|GHA|NGA|CA|CHA|JA|JHA|NYA|TTA|TTHA|DDA|DDDHA|DDHA",
    "1109c KAITHI LETTER |RHA|NNA|TA|THA|DA|DHA|NA|PA|PHA|BA|BHA|MA|YA|RA|LA|VA|SHA|SSA|SA|HA",
    "110b0 KAITHI VOWEL SIGN |AA|I|II|U|UU|E|AI|O|AU",
    "110b9 KAITHI |SIGN VIRAMA|SIGN NUKTA|ABBREVIATION SIGN|ENUMERATION SIGN|NUMBER SIGN",
    "110be KAITHI |SECTION MARK|DOUBLE SECTION MARK|DANDA|DOUBLE DANDA|VOWEL SIGN VOCALIC R",
    "110cd |KAITHI NUMBER SIGN ABOVE",
    "110d0 SORA SOMPENG LETTER |SAH|TAH|BAH|CAH|DAH|GAH|MAH|NGAH",
    "110d8 SORA SOMPENG LETTER |LAH|NAH|VAH|PAH|YAH|RAH|HAH|KAH|JAH|NYAH|AH|EEH|IH|UH|OH|EH|MAE",
    "110f0 SORA SOMPENG DIGIT |ZERO|ONE|TWO|THREE|FOUR|FIVE|SIX|SEVEN|EIGHT|NINE",
    "11100 CHAKMA SIGN |CANDRABINDU|ANUSVARA|VISARGA",
    "11103 CHAKMA LETTER |AA|I|U|E|KAA|KHAA",
    "11109 CHAKMA LETTER |GAA|GHAA|NGAA|CAA|CHAA|JAA|JHAA|NYAA|TTAA|TTHAA|DDAA|DDHAA|NNAA|TAA",
    "11117 CHAKMA LETTER |THAA|DAA|DHAA|NAA|PAA|PHAA|BAA|BHAA|MAA|YYAA|YAA|RAA|LAA|WAA|SAA|HAA",
    "11127 CHAKMA VOWEL SIGN |A|I|II|U|UU|E|AI|O|AU|OI",
    "11131 CHAKMA |O MARK|AU MARK|VIRAMA|MAAYYAA",
    "11136 CHAKMA DIGIT |ZERO|ONE|TWO|THREE|FOUR|FIVE|SIX|SEVEN|EIGHT|NINE",
    "11140 CHAKMA |SECTION MARK|DANDA",
    "11142 CHAKMA |DOUBLE DANDA|QUESTION MARK|LETTER LHAA|VOWEL SIGN AA|VOWEL SIGN EI|LETTER VAA",
    "11150 MAHAJANI LETTER |A|I|U|E|O|KA|KHA|GA|GHA|CA|CHA|JA|JHA|NYA|TTA|TTHA",
    "11160 MAHAJANI LETTER |DDA|DDHA|NNA|TA|THA|DA|DHA|NA|PA|PHA|BA|BHA|MA|RA|LA|VA|SA|HA|RRA",
    "11173 MAHAJANI |SIGN NUKTA|ABBREVIATION SIGN|SECTION MARK|LIGATURE SHRI",
    "11180 SHARADA SIGN |CANDRABINDU|ANUSVARA|VISARGA",
    "11183 SHARADA LETTER |A|AA|I|II|U|UU|VOCALIC R|VOCALIC RR|VOCALIC L|VOCALIC LL",
    "1118d SHARADA LETTER |E|AI|O|AU|KA|KHA|GA|GHA|NGA|CA|CHA|JA|JHA|NYA|TTA|TTHA|DDA|DDHA",
    "1119f SHARADA LETTER |NNA|TA|THA|DA|DHA|NA|PA|PHA|BA|BHA|MA|YA|RA|LA|LLA|VA|SHA|SSA|SA|HA",
    "111b3 SHARADA VOWEL SIGN |AA|I|II|U|UU|VOCALIC R|VOCALIC RR|VOCALIC L|VOCALIC LL|E|AI|O|AU",
    "111c0 SHARADA SIGN |VIRAMA|AVAGRAHA|JIHVAMULIYA|UPADHMANIYA",
    "111c4 SHARADA |OM|DANDA|DOUBLE DANDA|ABBREVIATION SIGN",
    "111c8 SHARADA |SEPARATOR|SANDHI MARK|SIGN NUKTA|VOWEL MODIFIER MARK|EXTRA SHORT VOWEL MARK",
    "111cd SHARADA |SUTRA MARK|VOWEL SIGN PRISHTHAMATRA E|SIGN INVERTED CANDRABINDU",
    "111d0 SHARADA DIGIT |ZERO|ONE|TWO|THREE|FOUR|FIVE|SIX|SEVEN|EIGHT|NINE",
    "111da SHARADA |EKAM|SIGN SIDDHAM|HEADSTROKE|CONTINUATION SIGN|SECTION MARK-1|SECTION MARK-2",
    "111e1 SINHALA ARCHAIC DIGIT |ONE|TWO|THREE|FOUR|FIVE|SIX|SEVEN|EIGHT|NINE",
    "111ea SINHALA ARCHAIC NUMBER |TEN|TWENTY|THIRTY|FORTY|FIFTY|SIXTY|SEVENTY|EIGHTY|NINETY",
    "111f3 SINHALA ARCHAIC NUMBER ONE |HUNDRED|THOUSAND",
    "11200 KHOJKI LETTER |A|AA|I|U|E|AI|O|AU|KA|KHA|GA|GGA|GHA|NGA|CA|CHA|JA|JJA",
    "11213 KHOJKI LETTER |NYA|TTA|TTHA|DDA|DDHA",
    "11218 KHOJKI LETTER |NNA|TA|THA|DA|DDDA|DHA|NA|PA|PHA|BA|BBA|BHA|MA|YA|RA|LA|VA|SA|HA|LLA",
    "1122c KHOJKI VOWEL SIGN |AA|I|II|U|E|AI|O|AU",
    "11234 KHOJKI |SIGN ANUSVARA|SIGN VIRAMA|SIGN NUKTA|SIGN SHADDA|DANDA|DOUBLE DANDA",
    "1123a KHOJKI |WORD SEPARATOR|SECTION MARK|DOUBLE SECTION MARK|ABBREVIATION SIGN|SIGN SUKUN",
    "11280 MULTANI LETTER |A|I|U|E|KA|KHA|GA",
    "11288 |MULTANI LETTER GHA",
    "1128a MULTANI LETTER |CA|CHA|JA|JJA",
    "1128f MULTANI LETTER |NYA|TTA|TTHA|DDA|DDDA|DDHA|NNA|TA|THA|DA|DHA|NA|PA|PHA|BA",
    "1129f MULTANI LETTER |BHA|MA|YA|RA|LA|VA|SA|HA|RRA|RHA",
    "112a9 |MULTANI SECTION MARK",
    "112b0 KHUDAWADI LETTER |A|AA|I|II|U|UU|E|AI|O",
    "112b9 KHUDAWADI LETTER |AU|KA|KHA|GA|GGA|GHA|NGA|CA|CHA|JA|JJA|JHA|NYA|TTA|TTHA|DDA|DDDA|RRA",
    "112cb KHUDAWADI LETTER |DDHA|NNA|TA|THA|DA|DHA|NA|PA|PHA|BA|BBA|BHA|MA|YA|RA|LA|VA|SHA|SA|HA",
    "112df |KHUDAWADI SIGN ANUSVARA",
    "112e0 KHUDAWADI VOWEL SIGN |AA|I|II|U|UU|E|AI|O|AU",
    "112e9 KHUDAWADI SIGN |NUKTA|VIRAMA",
    "112f0 KHUDAWADI DIGIT |ZERO|ONE|TWO|THREE|FOUR|FIVE|SIX|SEVEN|EIGHT|NINE",
    "11300 GRANTHA SIGN |COMBINING ANUSVARA ABOVE|CANDRABINDU|ANUSVARA|VISARGA",
    "11305 GRANTHA LETTER |A|AA|I|II|U|UU|VOCALIC R|VOCALIC L",
    "1130f GRANTHA LETTER |EE|AI",
    "11313 GRANTHA LETTER |OO|AU|KA|KHA",
    "11317 GRANTHA LETTER |GA|GHA|NGA|CA|CHA|JA|JHA|NYA|TTA|TTHA|DDA|DDHA|NNA|TA|THA|DA|DHA|NA",
    "1132a GRANTHA LETTER |PA|PHA|BA|BHA|MA|YA|RA",
    "11332 GRANTHA LETTER |LA|LLA",
    "11335 GRANTHA LETTER |VA|SHA|SSA|SA|HA",
    "1133b |COMBINING BINDU BELOW|GRANTHA SIGN NUKTA|GRANTHA SIGN AVAGRAHA",
    "1133e GRANTHA VOWEL SIGN |AA|I|II|U|UU|VOCALIC R|VOCALIC RR",
    "11347 GRANTHA VOWEL SIGN |EE|AI",
    "1134b GRANTHA |VOWEL SIGN OO|VOWEL SIGN AU|SIGN VIRAMA",
    "11350 |GRANTHA OM",
    "11357 |GRANTHA AU LENGTH MARK",
    "1135d |GRANTHA SIGN PLUTA",
    "1135e GRANTHA LETTER |VEDIC ANUSVARA|VEDIC DOUBLE ANUSVARA|VOCALIC RR|VOCALIC LL",
    "11362 GRANTHA VOWEL SIGN VOCALIC |L|LL",
    "11366 COMBINING GRANTHA DIGIT |ZERO|ONE|TWO|THREE|FOUR|FIVE|SIX",
    "11370 COMBINING GRANTHA LETTER |A|KA|NA|VI|PA",
    "11400 NEWA LETTER |A|AA|I|II|U|UU|VOCALIC R|VOCALIC RR|VOCALIC L|VOCALIC LL|E|AI|O",
    "1140d NEWA LETTER |AU|KA|KHA|GA|GHA|NGA|NGHA|CA|CHA|JA|JHA|NYA|NYHA|TTA|TTHA|DDA|DDHA|NNA|TA",
    "11420 NEWA LETTER |THA|DA|DHA|NA|NHA|PA|PHA|BA|BHA|MA|MHA|YA|RA|RHA|LA|LHA|WA|SHA|SSA|SA|HA",
    "11435 NEWA VOWEL SIGN |AA|I|II|U|UU|VOCALIC R|VOCALIC RR|VOCALIC L|VOCALIC LL|E|AI|O|AU",
    "11442 NEWA SIGN |VIRAMA|CANDRABINDU|ANUSVARA|VISARGA|NUKTA|AVAGRAHA|FINAL ANUSVARA",
    "11449 NEWA |OM|SIDDHI|DANDA|DOUBLE DANDA|COMMA|GAP FILLER|ABBREVIATION SIGN",
    "11450 NEWA DIGIT |ZERO|ONE|TWO|THREE|FOUR|FIVE|SIX|SEVEN|EIGHT|NINE",
    "1145a NEWA |DOUBLE COMMA|PLACEHOLDER MARK",
    "1145d NEWA |INSERTION SIGN|SANDHI MARK|LETTER VEDIC ANUSVARA",
    "11460 NEWA SIGN |JIHVAMULIYA|UPADHMANIYA",
    "11480 |TIRHUTA ANJI",
    "11481 TIRHUTA LETTER |A|AA|I|II|U|UU|VOCALIC R|VOCALIC RR|VOCALIC L",
    "1148a TIRHUTA LETTER |VOCALIC LL|E|AI|O|AU|KA|KHA|GA|GHA|NGA|CA|CHA|JA|JHA|NYA|TTA|TTHA|DDA",
    "1149c TIRHUTA LETTER |DDHA|NNA|TA|THA|DA|DHA|NA|PA|PHA|BA|BHA|MA|YA|RA|LA|VA|SHA|SSA|SA|HA",
    "114b0 TIRHUTA VOWEL SIGN |AA|I|II|U|UU|VOCALIC R",
    "114b6 TIRHUTA VOWEL SIGN |VOCALIC RR|VOCALIC L|VOCALIC LL|E|SHORT E|AI|O|SHORT O|AU",
    "114bf TIRHUTA SIGN |CANDRABINDU|ANUSVARA|VISARGA|VIRAMA|NUKTA|AVAGRAHA",
    "114c5 TIRHUTA |GVANG|ABBREVIATION SIGN|OM",
    "114d0 TIRHUTA DIGIT |ZERO|ONE|TWO|THREE|FOUR|FIVE|SIX|SEVEN|EIGHT|NINE",
    "11580 SIDDHAM LETTER |A|AA|I|II|U|UU|VOCALIC R|VOCALIC RR|VOCALIC L",
    "11589 SIDDHAM LETTER |VOCALIC LL|E|AI|O|AU|KA|KHA|GA|GHA|NGA|CA|CHA|JA|JHA|NYA|TTA|TTHA|DDA",
    "1159b SIDDHAM LETTER |DDHA|NNA|TA|THA|DA|DHA|NA|PA|PHA|BA|BHA|MA|YA|RA|LA|VA|SHA|SSA|SA|HA",
    "115af SIDDHAM VOWEL SIGN |AA|I|II|U|UU|VOCALIC R|VOCALIC RR",
    "115b8 SIDDHAM VOWEL SIGN |E|AI|O|AU",
    "115bc SIDDHAM SIGN |CANDRABINDU|ANUSVARA|VISARGA|VIRAMA|NUKTA|SIDDHAM",
    "115c2 SIDDHAM |DANDA|DOUBLE DANDA|SEPARATOR DOT|SEPARATOR BAR",
    "115c6 SIDDHAM |REPETITION MARK-1|REPETITION MARK-2|REPETITION MARK-3|END OF TEXT MARK",
    "115ca SIDDHAM SECTION MARK WITH TRIDENT AND |U-SHAPED ORNAMENTS|DOTTED CRESCENTS",
    "115cc SIDDHAM SECTION MARK WITH RAYS AND DOTTED |CRESCENTS|DOUBLE CRESCENTS|TRIPLE CRESCENTS",
    "115cf SIDDHAM SECTION MARK |DOUBLE RING|DOUBLE RING WITH RAYS|WITH DOUBLE CRESCENTS",
    "115d2 SIDDHAM SECTION MARK WITH |TRIPLE CRESCENTS|QUADRUPLE CRESCENTS|SEPTUPLE CRESCENTS",
    "115d5 SIDDHAM SECTION MARK WITH CIRCLES AND |RAYS|TWO ENCLOSURES|FOUR ENCLOSURES",
    "115d8 |SIDDHAM LETTER THREE-CIRCLE ALTERNATE I",
    "115d9 SIDDHAM LETTER |TWO-CIRCLE ALTERNATE I|TWO-CIRCLE ALTERNATE II|ALTERNATE U",
    "115dc SIDDHAM VOWEL SIGN ALTERNATE |U|UU",
    "11600 MODI LETTER |A|AA|I|II|U|UU|VOCALIC R|VOCALIC RR|VOCALIC L",
    "11609 MODI LETTER |VOCALIC LL|E|AI|O|AU|KA|KHA|GA|GHA|NGA|CA|CHA|JA|JHA|NYA|TTA|TTHA|DDA",
    "1161b MODI LETTER |DDHA|NNA|TA|THA|DA|DHA|NA|PA|PHA|BA|BHA|MA|YA|RA|LA|VA|SHA|SSA|SA|HA|LLA",
    "11630 MODI VOWEL SIGN |AA|I|II|U|UU|VOCALIC R|VOCALIC RR|VOCALIC L|VOCALIC LL|E|AI|O|AU",
    "1163d MODI SIGN |ANUSVARA|VISARGA|VIRAMA|ARDHACANDRA",
    "11641 MODI |DANDA|DOUBLE DANDA|ABBREVIATION SIGN|SIGN HUVA",
    "11650 MODI DIGIT |ZERO|ONE|TWO|THREE|FOUR|FIVE|SIX|SEVEN|EIGHT|NINE",
    "11660 MONGOLIAN |BIRGA WITH ORNAMENT|ROTATED BIRGA|DOUBLE BIRGA WITH ORNAMENT",
    "11663 MONGOLIAN |TRIPLE BIRGA WITH ORNAMENT|BIRGA WITH DOUBLE ORNAMENT",
    "11665 MONGOLIAN ROTATED BIRGA WITH |ORNAMENT|DOUBLE ORNAMENT",
    "11667 MONGOLIAN INVERTED |BIRGA|BIRGA WITH DOUBLE ORNAMENT",
    "11669 MONGOLIAN SWIRL |BIRGA|BIRGA WITH ORNAMENT|BIRGA WITH DOUBLE ORNAMENT",
    "1166c |MONGOLIAN TURNED SWIRL BIRGA WITH DOUBLE ORNAMENT",
    "11680 TAKRI LETTER |A|AA|I|II|U|UU|E|AI|O|AU|KA|KHA|GA|GHA|NGA|CA|CHA|JA|JHA|NYA|TTA|TTHA",
    "11696 TAKRI LETTER |DDA|DDHA|NNA|TA|THA|DA|DHA|NA|PA|PHA|BA|BHA|MA|YA|RA|LA|VA|SHA|SA|HA|RRA",
    "116ab TAKRI SIGN |ANUSVARA|VISARGA",
    "116ad TAKRI VOWEL SIGN |AA|I|II|U|UU|E|AI|O|AU",
    "116b6 TAKRI |SIGN VIRAMA|SIGN NUKTA|LETTER ARCHAIC KHA|ABBREVIATION SIGN",
    "116c0 TAKRI DIGIT |ZERO|ONE|TWO|THREE|FOUR|FIVE|SIX|SEVEN|EIGHT|NINE",
    "11700 AHOM LETTER |KA|KHA|NGA|NA|TA|ALTERNATE TA|PA|PHA|BA|MA|JA",
    "1170b AHOM LETTER |CHA|THA|RA|LA|SA|NYA|HA|A|DA|DHA|GA|ALTERNATE GA|GHA|BHA|JHA|ALTERNATE BA",
    "1171d AHOM CONSONANT SIGN MEDIAL |LA|RA|LIGATING RA",
    "11720 AHOM VOWEL SIGN |A|AA|I|II|U|UU|E|AW|O|AI|AM",
    "1172b |AHOM SIGN KILLER",
    "11730 AHOM DIGIT |ZERO|ONE|TWO|THREE|FOUR|FIVE|SIX|SEVEN|EIGHT|NINE",
    "1173a AHOM |NUMBER TEN|NUMBER TWENTY|SIGN SMALL SECTION|SIGN SECTION|SIGN RULAI|SYMBOL VI",
    "11740 AHOM LETTER |CA|TTA|TTHA|DDA|DDHA|NNA|LLA",
    "11800 |DOGRA LETTER A",
    "11801 DOGRA LETTER |AA|I|II|U|UU|E|AI|O|AU|KA|KHA|GA|GHA|NGA|CA|CHA|JA|JHA|NYA|TTA|TTHA|DDA",
    "11817 DOGRA LETTER |DDHA|NNA|TA|THA|DA|DHA|NA|PA|PHA|BA|BHA|MA|YA|RA|LA|VA|SHA|SSA|SA|HA|RRA",
    "1182c DOGRA VOWEL SIGN |AA|I|II|U|UU|VOCALIC R|VOCALIC RR|E|AI|O|AU",
    "11837 DOGRA |SIGN ANUSVARA|SIGN VISARGA|SIGN VIRAMA|SIGN NUKTA|ABBREVIATION SIGN",
    "118a0 WARANG CITI CAPITAL LETTER |NGAA|A|WI|YU|YA|YO|II|UU|E|O|ANG|GA|KO|ENY|YUJ|UC|ENN|ODD",
    "118b2 WARANG CITI CAPITAL LETTER |TTE|NUNG|DA|AT|AM|BU|PU|HIYO|HOLO|HORR|HAR|SSUU|SII|VIYO",
    "118c0 WARANG CITI SMALL LETTER |NGAA|A|WI|YU|YA|YO|II|UU|E|O|ANG|GA|KO|ENY|YUJ|UC|ENN",
    "118d1 WARANG CITI SMALL LETTER |ODD|TTE|NUNG|DA|AT|AM|BU|PU|HIYO|HOLO|HORR|HAR|SSUU|SII|VIYO",
    "118e0 WARANG CITI DIGIT |ZERO|ONE|TWO|THREE|FOUR|FIVE|SIX|SEVEN|EIGHT|NINE",
    "118ea WARANG CITI NUMBER |TEN|TWENTY|THIRTY|FORTY|FIFTY|SIXTY|SEVENTY|EIGHTY|NINETY",
    "118ff |WARANG CITI OM",
    "11900 DIVES AKURU LETTER |A|AA|I|II|U|UU|E",
    "11909 |DIVES AKURU LETTER O",
    "1190c DIVES AKURU LETTER |KA|KHA|GA|GHA|NGA|CA|CHA|JA",
    "11915 DIVES AKURU LETTER |NYA|TTA",
    "11918 DIVES AKURU LETTER |DDA|DDHA|NNA|TA|THA",
    "1191d DIVES AKURU LETTER |DA|DHA|NA|PA|PHA|BA|BHA|MA|YA|YYA|RA|LA|VA|SHA|SSA|SA|HA|LLA|ZA",
    "11930 DIVES AKURU VOWEL SIGN |AA|I|II|U|UU|E",
    "11937 DIVES AKURU VOWEL SIGN |AI|O",
    "1193b DIVES AKURU SIGN |ANUSVARA|CANDRABINDU|HALANTA",
    "1193e DIVES AKURU |VIRAMA|PREFIXED NASAL SIGN|MEDIAL YA",
    "11941 DIVES AKURU |INITIAL RA|MEDIAL RA|SIGN NUKTA|DOUBLE DANDA|GAP FILLER|END OF TEXT MARK",
    "11950 DIVES AKURU DIGIT |ZERO|ONE|TWO|THREE|FOUR|FIVE|SIX|SEVEN|EIGHT|NINE",
    "119a0 NANDINAGARI LETTER |A|AA|I|II|U|UU|VOCALIC R|VOCALIC RR",
    "119aa NANDINAGARI LETTER |E|AI",
    "119ac NANDINAGARI LETTER |O|AU|KA|KHA|GA|GHA|NGA|CA|CHA|JA|JHA|NYA|TTA|TTHA|DDA|DDHA|NNA|TA",
    "119be NANDINAGARI LETTER |THA|DA|DHA|NA|PA|PHA|BA|BHA|MA|YA|RA|LA|VA|SHA|SSA|SA|HA|LLA|RRA",
    "119d1 NANDINAGARI VOWEL SIGN |AA|I|II|U|UU|VOCALIC R|VOCALIC RR",
    "119da NANDINAGARI VOWEL SIGN |E|AI|O|AU",
    "119de NANDINAGARI SIGN |ANUSVARA|VISARGA|VIRAMA|AVAGRAHA|SIDDHAM",
    "119e3 NANDINAGARI |HEADSTROKE|VOWEL SIGN PRISHTHAMATRA E",
    "11a00 |ZANABAZAR SQUARE LETTER A",
    "11a01 ZANABAZAR SQUARE VOWEL SIGN |I|UE|U|E|OE|O|AI|AU|REVERSED I",
    "11a0a |ZANABAZAR SQUARE VOWEL LENGTH MARK",
    "11a0b ZANABAZAR SQUARE LETTER |KA|KHA|GA|GHA|NGA|CA|CHA",
    "11a12 ZANABAZAR SQUARE LETTER |JA|NYA|TTA|TTHA|DDA|DDHA|NNA|TA|THA|DA|DHA|NA|PA|PHA|BA|BHA",
    "11a22 ZANABAZAR SQUARE LETTER |MA|TSA|TSHA|DZA|DZHA|ZHA|ZA|-A|YA|RA|LA|VA|SHA|SSA|SA|HA|KSSA",
    "11a33 ZANABAZAR SQUARE |FINAL CONSONANT MARK|SIGN VIRAMA|SIGN CANDRABINDU",
    "11a36 ZANABAZAR SQUARE SIGN |CANDRABINDU WITH ORNAMENT|CANDRA WITH ORNAMENT|ANUSVARA|VISARGA",
    "11a3a |ZANABAZAR SQUARE CLUSTER-INITIAL LETTER RA",
    "11a3b ZANABAZAR SQUARE CLUSTER-FINAL LETTER |YA|RA|LA|VA",
    "11a3f ZANABAZAR SQUARE |INITIAL HEAD MARK|CLOSING HEAD MARK|MARK TSHEG|MARK SHAD",
    "11a43 ZANABAZAR SQUARE |MARK DOUBLE SHAD|MARK LONG TSHEG|INITIAL DOUBLE-LINED HEAD MARK",
    "11a46 ZANABAZAR SQUARE |CLOSING DOUBLE-LINED HEAD MARK|SUBJOINER",
    "11a50 |SOYOMBO LETTER A",
    "11a51 SOYOMBO VOWEL SIGN |I|UE|U|E|O|OE|AI|AU|VOCALIC R|VOCALIC L",
    "11a5b SOYOMBO |VOWEL LENGTH MARK|LETTER KA|LETTER KHA",
    "11a5e SOYOMBO LETTER |GA|GHA|NGA|CA|CHA|JA|JHA|NYA|TTA|TTHA|DDA|DDHA|NNA|TA|THA|DA|DHA|NA",
    "11a70 SOYOMBO LETTER |PA|PHA|BA|BHA|MA|TSA|TSHA|DZA|ZHA|ZA|-A|YA|RA|LA|VA|SHA|SSA|SA|HA|KSSA",
    "11a84 SOYOMBO SIGN |JIHVAMULIYA|UPADHMANIYA",
    "11a86 SOYOMBO CLUSTER-INITIAL LETTER |RA|LA|SHA|SA",
    "11a8a SOYOMBO FINAL CONSONANT SIGN |G|K|NG|D|N|B|M|R|L|SH|S|-A",
    "11a96 SOYOMBO |SIGN ANUSVARA|SIGN VISARGA|GEMINATION MARK|SUBJOINER",
    "11a9a SOYOMBO MARK |TSHEG|SHAD|DOUBLE SHAD|PLUTA",
    "11a9e SOYOMBO HEAD MARK WITH MOON AND |SUN AND TRIPLE FLAME|SUN AND FLAME|SUN",
    "11aa1 SOYOMBO TERMINAL |MARK-1|MARK-2",
    "11ab0 CANADIAN SYLLABICS NATTILIK |HI|HII|HO|HOO|HA|HAA|SHRI|SHRII|SHRO|SHROO|SHRA|SHRAA",
    "11abc CANADIAN SYLLABICS |SPE|SPI|SPO|SPA",
    "11ac0 PAU CIN HAU LETTER |PA|KA|LA|MA|DA|ZA",
    "11ac6 PAU CIN HAU LETTER |VA|NGA|HA|GA|KHA|SA|BA|CA|TA|THA|NA|PHA|RA|FA|CHA|A|E|I|O|U|UA|IA",
    "11adc PAU CIN HAU LETTER FINAL |P|K|T|M|N|L|W|NG|Y",
    "11ae5 PAU CIN HAU |RISING TONE LONG|RISING TONE|SANDHI GLOTTAL STOP",
    "11ae8 PAU CIN HAU RISING TONE |LONG FINAL|FINAL",
    "11aea PAU CIN HAU SANDHI |GLOTTAL STOP FINAL|TONE LONG|TONE|TONE LONG FINAL|TONE FINAL",
    "11aef PAU CIN HAU |MID-LEVEL TONE|GLOTTAL STOP VARIANT|MID-LEVEL TONE LONG FINAL",
    "11af2 PAU CIN HAU |MID-LEVEL TONE FINAL|LOW-FALLING TONE LONG|LOW-FALLING TONE|GLOTTAL STOP",
    "11af6 PAU CIN HAU |LOW-FALLING TONE LONG FINAL|LOW-FALLING TONE FINAL|GLOTTAL STOP FINAL",
    "11c00 BHAIKSUKI LETTER |A|AA|I|II|U|UU|VOCALIC R|VOCALIC RR|VOCALIC L",
    "11c0a BHAIKSUKI LETTER |E|AI|O|AU|KA|KHA|GA|GHA|NGA|CA|CHA|JA|JHA|NYA|TTA|TTHA|DDA",
    "11c1b BHAIKSUKI LETTER |DDHA|NNA|TA|THA|DA|DHA|NA|PA|PHA|BA|BHA|MA|YA|RA|LA|VA|SHA|SSA|SA|HA",
    "11c2f BHAIKSUKI VOWEL SIGN |AA|I|II|U|UU|VOCALIC R|VOCALIC RR|VOCALIC L",
    "11c38 BHAIKSUKI VOWEL SIGN |E|AI|O|AU",
    "11c3c BHAIKSUKI SIGN |CANDRABINDU|ANUSVARA|VISARGA|VIRAMA|AVAGRAHA",
    "11c41 BHAIKSUKI |DANDA|DOUBLE DANDA|WORD SEPARATOR|GAP FILLER-1|GAP FILLER-2",
    "11c50 BHAIKSUKI DIGIT |ZERO|ONE|TWO|THREE|FOUR|FIVE|SIX|SEVEN|EIGHT|NINE",
    "11c5a BHAIKSUKI NUMBER |ONE|TWO|THREE|FOUR|FIVE|SIX|SEVEN",
    "11c61 BHAIKSUKI NUMBER |EIGHT|NINE|TEN|TWENTY|THIRTY|FORTY|FIFTY|SIXTY|SEVENTY|EIGHTY|NINETY",
    "11c6c |BHAIKSUKI HUNDREDS UNIT MARK",
    "11c70 MARCHEN |HEAD MARK|MARK SHAD",
    "11c72 MARCHEN LETTER |KA|KHA|GA|NGA|CA|CHA|JA|NYA|TA",
    "11c7b MARCHEN LETTER |THA|DA|NA|PA|PHA|BA|MA|TSA|TSHA|DZA|WA|ZHA|ZA|-A|YA|RA|LA|SHA|SA|HA|A",
    "11c92 MARCHEN SUBJOINED LETTER |KA|KHA|GA|NGA|CA",
    "11c97 MARCHEN SUBJOINED LETTER |CHA|JA|NYA|TA|THA|DA|NA|PA|PHA|BA|MA|TSA|TSHA|DZA|WA|ZHA|ZA",
    "11ca9 MARCHEN SUBJOINED LETTER |YA|RA|LA|SHA|SA|HA|A",
    "11cb0 MARCHEN VOWEL SIGN |AA|I|U|E|O",
    "11cb5 MARCHEN SIGN |ANUSVARA|CANDRABINDU",
    "11d00 MASARAM GONDI LETTER |A|AA|I|II|U|UU|E",
    "11d08 MASARAM GONDI LETTER |AI|O",
    "11d0b MASARAM GONDI LETTER |AU|KA|KHA",
    "11d0e MASARAM GONDI LETTER |GA|GHA|NGA|CA|CHA|JA|JHA|NYA|TTA|TTHA|DDA|DDHA|NNA|TA|THA|DA|DHA",
    "11d1f MASARAM GONDI LETTER |NA|PA|PHA|BA|BHA|MA|YA|RA|LA|VA|SHA|SSA|SA|HA|LLA|KSSA|JNYA|TRA",
    "11d31 MASARAM GONDI VOWEL SIGN |AA|I|II|U|UU|VOCALIC R",
    "11d3a |MASARAM GONDI VOWEL SIGN E",
    "11d3c MASARAM GONDI VOWEL SIGN |AI|O",
    "11d3f MASARAM GONDI |VOWEL SIGN AU|SIGN ANUSVARA",
    "11d41 MASARAM GONDI |SIGN VISARGA|SIGN NUKTA|SIGN CANDRA|SIGN HALANTA|VIRAMA|REPHA|RA-KARA",
    "11d50 MASARAM GONDI DIGIT |ZERO|ONE|TWO|THREE|FOUR|FIVE|SIX|SEVEN|EIGHT|NINE",
    "11d60 GUNJALA GONDI LETTER |A|AA|I|II|U|UU",
    "11d67 GUNJALA GONDI LETTER |EE|AI",
    "11d6a GUNJALA GONDI LETTER |OO|AU|YA|VA|BA|BHA|MA|KA|KHA|TA|THA|LA|GA|GHA|DA",
    "11d79 GUNJALA GONDI LETTER |DHA|NA|CA|CHA|TTA|TTHA|LLA|JA|JHA|DDA|DDHA|NGA|PA|PHA|HA|RA|SA",
    "11d8a GUNJALA GONDI VOWEL SIGN |AA|I|II|U|UU",
    "11d90 GUNJALA GONDI VOWEL SIGN |EE|AI",
    "11d93 GUNJALA GONDI |VOWEL SIGN OO|VOWEL SIGN AU|SIGN ANUSVARA|SIGN VISARGA|VIRAMA|OM",
    "11da0 GUNJALA GONDI DIGIT |ZERO|ONE|TWO|THREE|FOUR|FIVE|SIX|SEVEN|EIGHT|NINE",
    "11ee0 MAKASAR LETTER |KA|GA|NGA|PA|BA|MA|TA|DA|NA|CA|JA|NYA|YA|RA|LA|VA|SA|A",
    "11ef2 |MAKASAR ANGKA",
    "11ef3 MAKASAR VOWEL SIGN |I|U|E|O",
    "11ef7 MAKASAR |PASSIMBANG|END OF SECTION",
    "11fb0 |LISU LETTER YHA",
    "11fc0 TAMIL FRACTION ONE |THREE-HUNDRED-AND-TWENTIETH|ONE-HUNDRED-AND-SIXTIETH",
    "11fc2 TAMIL FRACTION ONE |EIGHTIETH|SIXTY-FOURTH|FORTIETH|THIRTY-SECOND",
    "11fc6 TAMIL FRACTION THREE |EIGHTIETHS|SIXTY-FOURTHS",
    "11fc8 TAMIL FRACTION ONE |TWENTIETH|SIXTEENTH-1|SIXTEENTH-2|TENTH|EIGHTH",
    "11fcd TAMIL FRACTION |THREE TWENTIETHS|THREE SIXTEENTHS|ONE FIFTH|ONE QUARTER",
    "11fd1 TAMIL FRACTION |ONE HALF-1|ONE HALF-2|THREE QUARTERS|DOWNSCALING FACTOR KIIZH",
    "11fd5 TAMIL SIGN |NEL|CEVITU|AAZHAAKKU|UZHAKKU|MUUVUZHAKKU",
    "11fda TAMIL SIGN |KURUNI|PATHAKKU|MUKKURUNI|KAACU|PANAM|PON|VARAAKAN|PAARAM|KUZHI|VELI",
    "11fe4 TAMIL |WET CULTIVATION SIGN|DRY CULTIVATION SIGN|LAND SIGN|SALT PAN SIGN",
    "11fe8 TAMIL TRADITIONAL |CREDIT SIGN|NUMBER SIGN",
    "11fea TAMIL |CURRENT SIGN|AND ODD SIGN|SPENT SIGN",
    "11fed TAMIL |TOTAL SIGN|IN POSSESSION SIGN|STARTING FROM SIGN|SIGN MUTHALIYA|SIGN VAKAIYARAA",
    "11fff |TAMIL PUNCTUATION END OF TEXT"]

end Name
end Text
end DebugIndex
