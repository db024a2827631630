/-!
# The names of the forms kept for compatibility

The names that Unicode 14 gives to the code points from U+E000 to U+FFFD.  A row
begins with its first code point and what its names have in common; the endings
of the names of that point and those behind it follow, each after a bar.
-/

namespace DebugIndex
namespace Text
namespace Name

/-- The rows of the table, in ascending order. -/
def formsRows : List String :=
  ["fb00 LATIN SMALL LIGATURE |FF|FI|FL|FFI|FFL|LONG S T|ST",
    "fb13 ARMENIAN SMALL LIGATURE |MEN NOW|MEN ECH|MEN INI|VEW NOW|MEN XEH",
    "fb1d HEBREW |LETTER YOD WITH HIRIQ|POINT JUDEO-SPANISH VARIKA",
    "fb1f HEBREW |LIGATURE YIDDISH YOD YOD PATAH|LETTER ALTERNATIVE AYIN",
    "fb21 HEBREW LETTER WIDE |ALEF|DALET|HE|KAF|LAMED|FINAL MEM|RESH|TAV",
    "fb29 |HEBREW LETTER ALTERNATIVE PLUS SIGN",
    "fb2a HEBREW LETTER SHIN WITH |SHIN DOT|SIN DOT|DAGESH AND SHIN DOT|DAGESH AND SIN DOT",
    "fb2e HEBREW LETTER ALEF WITH |PATAH|QAMATS|MAPIQ",
    "fb31 HEBREW LETTER |BET WITH DAGESH|GIMEL WITH DAGESH",
    "fb33 HEBREW LETTER |DALET WITH DAGESH|HE WITH MAPIQ|VAV WITH DAGESH|ZAYIN WITH DAGESH",
    "fb38 |HEBREW LETTER TET WITH DAGESH",
    "fb39 HEBREW LETTER |YOD WITH DAGESH|FINAL KAF WITH DAGESH|KAF WITH DAGESH|LAMED WITH DAGESH",
    "fb3e |HEBREW LETTER MEM WITH DAGESH",
    "fb40 HEBREW LETTER |NUN WITH DAGESH|SAMEKH WITH DAGESH",
    "fb43 HEBREW LETTER |FINAL PE WITH DAGESH|PE WITH DAGESH",
    "fb46 HEBREW LETTER |TSADI WITH DAGESH|QOF WITH DAGESH|RESH WITH DAGESH|SHIN WITH DAGESH",
    "fb4a HEBREW LETTER |TAV WITH DAGESH|VAV WITH HOLAM|BET WITH RAFE|KAF WITH RAFE|PE WITH RAFE",
    "fb4f |HEBREW LIGATURE ALEF LAMED",
    "fb50 ARABIC LETTER ALEF WASLA |ISOLATED FORM|FINAL FORM",
    "fb52 ARABIC LETTER BEEH |ISOLATED FORM|FINAL FORM|INITIAL FORM|MEDIAL FORM",
    "fb56 ARABIC LETTER PEH |ISOLATED FORM|FINAL FORM|INITIAL FORM|MEDIAL FORM",
    "fb5a ARABIC LETTER BEHEH |ISOLATED FORM|FINAL FORM|INITIAL FORM|MEDIAL FORM",
    "fb5e ARABIC LETTER TTEHEH |ISOLATED FORM|FINAL FORM|INITIAL FORM|MEDIAL FORM",
    "fb62 ARABIC LETTER TEHEH |ISOLATED FORM|FINAL FORM|INITIAL FORM|MEDIAL FORM",
    "fb66 ARABIC LETTER TTEH |ISOLATED FORM|FINAL FORM|INITIAL FORM|MEDIAL FORM",
    "fb6a ARABIC LETTER VEH |ISOLATED FORM|FINAL FORM|INITIAL FORM|MEDIAL FORM",
    "fb6e ARABIC LETTER PEHEH |ISOLATED FORM|FINAL FORM|INITIAL FORM|MEDIAL FORM",
    "fb72 ARABIC LETTER DYEH |ISOLATED FORM|FINAL FORM|INITIAL FORM|MEDIAL FORM",
    "fb76 ARABIC LETTER NYEH |ISOLATED FORM|FINAL FORM|INITIAL FORM|MEDIAL FORM",
    "fb7a ARABIC LETTER TCHEH |ISOLATED FORM|FINAL FORM|INITIAL FORM|MEDIAL FORM",
    "fb7e ARABIC LETTER TCHEHEH |ISOLATED FORM|FINAL FORM|INITIAL FORM|MEDIAL FORM",
    "fb82 ARABIC LETTER DDAHAL |ISOLATED FORM|FINAL FORM",
    "fb84 ARABIC LETTER DAHAL |ISOLATED FORM|FINAL FORM",
    "fb86 ARABIC LETTER |DUL ISOLATED FORM|DUL FINAL FORM|DDAL ISOLATED FORM|DDAL FINAL FORM",
    "fb8a ARABIC LETTER |JEH ISOLATED FORM|JEH FINAL FORM|RREH ISOLATED FORM|RREH FINAL FORM",
    "fb8e ARABIC LETTER KEHEH |ISOLATED FORM|FINAL FORM|INITIAL FORM|MEDIAL FORM",
    "fb92 ARABIC LETTER GAF |ISOLATED FORM|FINAL FORM|INITIAL FORM|MEDIAL FORM",
    "fb96 ARABIC LETTER GUEH |ISOLATED FORM|FINAL FORM|INITIAL FORM|MEDIAL FORM",
    "fb9a ARABIC LETTER NGOEH |ISOLATED FORM|FINAL FORM|INITIAL FORM|MEDIAL FORM",
    "fb9e ARABIC LETTER NOON GHUNNA |ISOLATED FORM|FINAL FORM",
    "fba0 ARABIC LETTER RNOON |ISOLATED FORM|FINAL FORM|INITIAL FORM|MEDIAL FORM",
    "fba4 ARABIC LETTER HEH WITH YEH ABOVE |ISOLATED FORM|FINAL FORM",
    "fba6 ARABIC LETTER HEH GOAL |ISOLATED FORM|FINAL FORM|INITIAL FORM|MEDIAL FORM",
    "fbaa ARABIC LETTER HEH DOACHASHMEE |ISOLATED FORM|FINAL FORM|INITIAL FORM|MEDIAL FORM",
    "fbae ARABIC LETTER YEH BARREE |ISOLATED FORM|FINAL FORM",
    "fbb0 ARABIC LETTER YEH BARREE WITH HAMZA ABOVE |ISOLATED FORM|FINAL FORM",
    "fbb2 ARABIC SYMBOL |DOT ABOVE|DOT BELOW|TWO DOTS ABOVE|TWO DOTS BELOW|THREE DOTS ABOVE",
    "fbb7 ARABIC SYMBOL THREE DOTS |BELOW|POINTING DOWNWARDS ABOVE|POINTING DOWNWARDS BELOW",
    "fbba ARABIC SYMBOL |FOUR DOTS ABOVE|FOUR DOTS BELOW|DOUBLE VERTICAL BAR BELOW",
    "fbbd ARABIC SYMBOL TWO DOTS VERTICALLY |ABOVE|BELOW",
    "fbbf ARABIC SYMBOL |RING|SMALL TAH ABOVE|SMALL TAH BELOW|WASLA ABOVE",
    "fbd3 ARABIC LETTER NG |ISOLATED FORM|FINAL FORM|INITIAL FORM|MEDIAL FORM",
    "fbd7 ARABIC LETTER |U ISOLATED FORM|U FINAL FORM|OE ISOLATED FORM|OE FINAL FORM",
    "fbdb ARABIC LETTER YU |ISOLATED FORM|FINAL FORM",
    "fbdd ARABIC LETTER |U WITH HAMZA ABOVE ISOLATED FORM|VE ISOLATED FORM|VE FINAL FORM",
    "fbe0 ARABIC LETTER KIRGHIZ |OE ISOLATED FORM|OE FINAL FORM|YU ISOLATED FORM|YU FINAL FORM",
    "fbe4 ARABIC LETTER E |ISOLATED FORM|FINAL FORM|INITIAL FORM|MEDIAL FORM",
    "fbe8 ARABIC LETTER UIGHUR KAZAKH KIRGHIZ ALEF MAKSURA |INITIAL FORM|MEDIAL FORM",
    "fbea ARABIC LIGATURE YEH WITH HAMZA ABOVE WITH ALEF |ISOLATED FORM|FINAL FORM",
    "fbec ARABIC LIGATURE YEH WITH HAMZA ABOVE WITH AE |ISOLATED FORM|FINAL FORM",
    "fbee ARABIC LIGATURE YEH WITH HAMZA ABOVE WITH WAW |ISOLATED FORM|FINAL FORM",
    "fbf0 ARABIC LIGATURE YEH WITH HAMZA ABOVE WITH U |ISOLATED FORM|FINAL FORM",
    "fbf2 ARABIC LIGATURE YEH WITH HAMZA ABOVE WITH OE |ISOLATED FORM|FINAL FORM",
    "fbf4 ARABIC LIGATURE YEH WITH HAMZA ABOVE WITH YU |ISOLATED FORM|FINAL FORM",
    "fbf6 ARABIC LIGATURE YEH WITH HAMZA ABOVE WITH E |ISOLATED FORM|FINAL FORM|INITIAL FORM",
    "fbf9 |ARABIC LIGATURE UIGHUR KIRGHIZ YEH WITH HAMZA ABOVE WITH ALEF MAKSURA ISOLATED FORM",
    "fbfa |ARABIC LIGATURE UIGHUR KIRGHIZ YEH WITH HAMZA ABOVE WITH ALEF MAKSURA FINAL FORM",
    "fbfb |ARABIC LIGATURE UIGHUR KIRGHIZ YEH WITH HAMZA ABOVE WITH ALEF MAKSURA INITIAL FORM",
    "fbfc ARABIC LETTER FARSI YEH |ISOLATED FORM|FINAL FORM|INITIAL FORM|MEDIAL FORM",
    "fc00 |ARABIC LIGATURE YEH WITH HAMZA ABOVE WITH JEEM ISOLATED FORM",
    "fc01 ARABIC LIGATURE YEH WITH HAMZA ABOVE WITH |HAH ISOLATED FORM|MEEM ISOLATED FORM",
    "fc03 |ARABIC LIGATURE YEH WITH HAMZA ABOVE WITH ALEF MAKSURA ISOLATED FORM",
    "fc04 |ARABIC LIGATURE YEH WITH HAMZA ABOVE WITH YEH ISOLATED FORM",
    "fc05 ARABIC LIGATURE BEH WITH |JEEM ISOLATED FORM|HAH ISOLATED FORM|KHAH ISOLATED FORM",
    "fc08 ARABIC LIGATURE BEH WITH |MEEM ISOLATED FORM|ALEF MAKSURA ISOLATED FORM",
    "fc0a ARABIC LIGATURE |BEH WITH YEH ISOLATED FORM|TEH WITH JEEM ISOLATED FORM",
    "fc0c ARABIC LIGATURE TEH WITH |HAH ISOLATED FORM|KHAH ISOLATED FORM|MEEM ISOLATED FORM",
    "fc0f ARABIC LIGATURE TEH WITH |ALEF MAKSURA ISOLATED FORM|YEH ISOLATED FORM",
    "fc11 ARABIC LIGATURE THEH WITH |JEEM ISOLATED FORM|MEEM ISOLATED FORM",
    "fc13 ARABIC LIGATURE THEH WITH |ALEF MAKSURA ISOLATED FORM|YEH ISOLATED FORM",
    "fc15 ARABIC LIGATURE JEEM WITH |HAH ISOLATED FORM|MEEM ISOLATED FORM",
    "fc17 ARABIC LIGATURE HAH WITH |JEEM ISOLATED FORM|MEEM ISOLATED FORM",
    "fc19 ARABIC LIGATURE KHAH WITH |JEEM ISOLATED FORM|HAH ISOLATED FORM|MEEM ISOLATED FORM",
    "fc1c ARABIC LIGATURE SEEN WITH |JEEM ISOLATED FORM|HAH ISOLATED FORM|KHAH ISOLATED FORM",
    "fc1f ARABIC LIGATURE |SEEN WITH MEEM ISOLATED FORM|SAD WITH HAH ISOLATED FORM",
    "fc21 ARABIC LIGATURE |SAD WITH MEEM ISOLATED FORM|DAD WITH JEEM ISOLATED FORM",
    "fc23 ARABIC LIGATURE DAD WITH |HAH ISOLATED FORM|KHAH ISOLATED FORM|MEEM ISOLATED FORM",
    "fc26 ARABIC LIGATURE TAH WITH |HAH ISOLATED FORM|MEEM ISOLATED FORM",
    "fc28 ARABIC LIGATURE |ZAH WITH MEEM ISOLATED FORM|AIN WITH JEEM ISOLATED FORM",
    "fc2a ARABIC LIGATURE |AIN WITH MEEM ISOLATED FORM|GHAIN WITH JEEM ISOLATED FORM",
    "fc2c ARABIC LIGATURE |GHAIN WITH MEEM ISOLATED FORM|FEH WITH JEEM ISOLATED FORM",
    "fc2e ARABIC LIGATURE FEH WITH |HAH ISOLATED FORM|KHAH ISOLATED FORM|MEEM ISOLATED FORM",
    "fc31 ARABIC LIGATURE FEH WITH |ALEF MAKSURA ISOLATED FORM|YEH ISOLATED FORM",
    "fc33 ARABIC LIGATURE QAF WITH |HAH ISOLATED FORM|MEEM ISOLATED FORM",
    "fc35 ARABIC LIGATURE QAF WITH |ALEF MAKSURA ISOLATED FORM|YEH ISOLATED FORM",
    "fc37 ARABIC LIGATURE KAF WITH |ALEF ISOLATED FORM|JEEM ISOLATED FORM|HAH ISOLATED FORM",
    "fc3a ARABIC LIGATURE KAF WITH |KHAH ISOLATED FORM|LAM ISOLATED FORM|MEEM ISOLATED FORM",
    "fc3d ARABIC LIGATURE KAF WITH |ALEF MAKSURA ISOLATED FORM|YEH ISOLATED FORM",
    "fc3f |ARABIC LIGATURE LAM WITH JEEM ISOLATED FORM",
    "fc40 ARABIC LIGATURE LAM WITH |HAH ISOLATED FORM|KHAH ISOLATED FORM|MEEM ISOLATED FORM",
    "fc43 ARABIC LIGATURE LAM WITH |ALEF MAKSURA ISOLATED FORM|YEH ISOLATED FORM",
    "fc45 ARABIC LIGATURE MEEM WITH |JEEM ISOLATED FORM|HAH ISOLATED FORM|KHAH ISOLATED FORM",
    "fc48 ARABIC LIGATURE MEEM WITH |MEEM ISOLATED FORM|ALEF MAKSURA ISOLATED FORM",
    "fc4a ARABIC LIGATURE |MEEM WITH YEH ISOLATED FORM|NOON WITH JEEM ISOLATED FORM",
    "fc4c ARABIC LIGATURE NOON WITH |HAH ISOLATED FORM|KHAH ISOLATED FORM|MEEM ISOLATED FORM",
    "fc4f ARABIC LIGATURE NOON WITH |ALEF MAKSURA ISOLATED FORM|YEH ISOLATED FORM",
    "fc51 ARABIC LIGATURE HEH WITH |JEEM ISOLATED FORM|MEEM ISOLATED FORM",
    "fc53 ARABIC LIGATURE HEH WITH |ALEF MAKSURA ISOLATED FORM|YEH ISOLATED FORM",
    "fc55 ARABIC LIGATURE YEH WITH |JEEM ISOLATED FORM|HAH ISOLATED FORM|KHAH ISOLATED FORM",
    "fc58 ARABIC LIGATURE YEH WITH |MEEM ISOLATED FORM|ALEF MAKSURA ISOLATED FORM",
    "fc5a ARABIC LIGATURE |YEH WITH YEH ISOLATED FORM|THAL WITH SUPERSCRIPT ALEF ISOLATED FORM",
    "fc5c |ARABIC LIGATURE REH WITH SUPERSCRIPT ALEF ISOLATED FORM",
    "fc5d |ARABIC LIGATURE ALEF MAKSURA WITH SUPERSCRIPT ALEF ISOLATED FORM",
    "fc5e ARABIC LIGATURE SHADDA WITH |DAMMATAN ISOLATED FORM|KASRATAN ISOLATED FORM",
    "fc60 ARABIC LIGATURE SHADDA WITH |FATHA ISOLATED FORM|DAMMA ISOLATED FORM",
    "fc62 ARABIC LIGATURE SHADDA WITH |KASRA ISOLATED FORM|SUPERSCRIPT ALEF ISOLATED FORM",
    "fc64 ARABIC LIGATURE YEH WITH HAMZA ABOVE WITH |REH FINAL FORM|ZAIN FINAL FORM",
    "fc66 ARABIC LIGATURE YEH WITH HAMZA ABOVE WITH |MEEM FINAL FORM|NOON FINAL FORM",
    "fc68 ARABIC LIGATURE YEH WITH HAMZA ABOVE WITH |ALEF MAKSURA FINAL FORM|YEH FINAL FORM",
    "fc6a ARABIC LIGATURE BEH WITH |REH FINAL FORM|ZAIN FINAL FORM|MEEM FINAL FORM",
    "fc6d ARABIC LIGATURE BEH WITH |NOON FINAL FORM|ALEF MAKSURA FINAL FORM|YEH FINAL FORM",
    "fc70 ARABIC LIGATURE TEH WITH |REH FINAL FORM|ZAIN FINAL FORM|MEEM FINAL FORM",
    "fc73 ARABIC LIGATURE TEH WITH |NOON FINAL FORM|ALEF MAKSURA FINAL FORM|YEH FINAL FORM",
    "fc76 ARABIC LIGATURE THEH WITH |REH FINAL FORM|ZAIN FINAL FORM|MEEM FINAL FORM",
    "fc79 ARABIC LIGATURE THEH WITH |NOON FINAL FORM|ALEF MAKSURA FINAL FORM|YEH FINAL FORM",
    "fc7c ARABIC LIGATURE FEH WITH |ALEF MAKSURA FINAL FORM|YEH FINAL FORM",
    "fc7e ARABIC LIGATURE QAF WITH |ALEF MAKSURA FINAL FORM|YEH FINAL FORM",
    "fc80 ARABIC LIGATURE KAF WITH |ALEF FINAL FORM|LAM FINAL FORM",
    "fc82 ARABIC LIGATURE KAF WITH |MEEM FINAL FORM|ALEF MAKSURA FINAL FORM|YEH FINAL FORM",
    "fc85 ARABIC LIGATURE LAM WITH |MEEM FINAL FORM|ALEF MAKSURA FINAL FORM|YEH FINAL FORM",
    "fc88 ARABIC LIGATURE MEEM WITH |ALEF FINAL FORM|MEEM FINAL FORM",
    "fc8a ARABIC LIGATURE NOON WITH |REH FINAL FORM|ZAIN FINAL FORM|MEEM FINAL FORM",
    "fc8d ARABIC LIGATURE NOON WITH |NOON FINAL FORM|ALEF MAKSURA FINAL FORM|YEH FINAL FORM",
    "fc90 |ARABIC LIGATURE ALEF MAKSURA WITH SUPERSCRIPT ALEF FINAL FORM",
    "fc91 ARABIC LIGATURE YEH WITH |REH FINAL FORM|ZAIN FINAL FORM|MEEM FINAL FORM",
    "fc94 ARABIC LIGATURE YEH WITH |NOON FINAL FORM|ALEF MAKSURA FINAL FORM|YEH FINAL FORM",
    "fc97 ARABIC LIGATURE YEH WITH HAMZA ABOVE WITH |JEEM INITIAL FORM|HAH INITIAL FORM",
    "fc99 ARABIC LIGATURE YEH WITH HAMZA ABOVE WITH |KHAH INITIAL FORM|MEEM INITIAL FORM",
    "fc9b ARABIC LIGATURE |YEH WITH HAMZA ABOVE WITH HEH INITIAL FORM|BEH WITH JEEM INITIAL FORM",
    "fc9d ARABIC LIGATURE BEH WITH |HAH INITIAL FORM|KHAH INITIAL FORM|MEEM INITIAL FORM",
    "fca0 ARABIC LIGATURE |BEH WITH HEH INITIAL FORM|TEH WITH JEEM INITIAL FORM",
    "fca2 ARABIC LIGATURE TEH WITH |HAH INITIAL FORM|KHAH INITIAL FORM|MEEM INITIAL FORM",
    "fca5 ARABIC LIGATURE |TEH WITH HEH INITIAL FORM|THEH WITH MEEM INITIAL FORM",
    "fca7 ARABIC LIGATURE JEEM WITH |HAH INITIAL FORM|MEEM INITIAL FORM",
    "fca9 ARABIC LIGATURE HAH WITH |JEEM INITIAL FORM|MEEM INITIAL FORM",
    "fcab ARABIC LIGATURE KHAH WITH |JEEM INITIAL FORM|MEEM INITIAL FORM",
    "fcad |ARABIC LIGATURE SEEN WITH JEEM INITIAL FORM",
    "fcae ARABIC LIGATURE SEEN WITH |HAH INITIAL FORM|KHAH INITIAL FORM|MEEM INITIAL FORM",
    "fcb1 ARABIC LIGATURE SAD WITH |HAH INITIAL FORM|KHAH INITIAL FORM|MEEM INITIAL FORM",
    "fcb4 ARABIC LIGATURE DAD WITH |JEEM INITIAL FORM|HAH INITIAL FORM|KHAH INITIAL FORM",
    "fcb7 ARABIC LIGATURE |DAD WITH MEEM INITIAL FORM|TAH WITH HAH INITIAL FORM",
    "fcb9 ARABIC LIGATURE |ZAH WITH MEEM INITIAL FORM|AIN WITH JEEM INITIAL FORM",
    "fcbb ARABIC LIGATURE |AIN WITH MEEM INITIAL FORM|GHAIN WITH JEEM INITIAL FORM",
    "fcbd ARABIC LIGATURE |GHAIN WITH MEEM INITIAL FORM|FEH WITH JEEM INITIAL FORM",
    "fcbf ARABIC LIGATURE FEH WITH |HAH INITIAL FORM|KHAH INITIAL FORM|MEEM INITIAL FORM",
    "fcc2 ARABIC LIGATURE QAF WITH |HAH INITIAL FORM|MEEM INITIAL FORM",
    "fcc4 ARABIC LIGATURE KAF WITH |JEEM INITIAL FORM|HAH INITIAL FORM",
    "fcc6 ARABIC LIGATURE KAF WITH |KHAH INITIAL FORM|LAM INITIAL FORM|MEEM INITIAL FORM",
    "fcc9 ARABIC LIGATURE LAM WITH |JEEM INITIAL FORM|HAH INITIAL FORM",
    "fccb ARABIC LIGATURE LAM WITH |KHAH INITIAL FORM|MEEM INITIAL FORM|HEH INITIAL FORM",
    "fcce ARABIC LIGATURE MEEM WITH |JEEM INITIAL FORM|HAH INITIAL FORM|KHAH INITIAL FORM",
    "fcd1 ARABIC LIGATURE |MEEM WITH MEEM INITIAL FORM|NOON WITH JEEM INITIAL FORM",
    "fcd3 ARABIC LIGATURE NOON WITH |HAH INITIAL FORM|KHAH INITIAL FORM|MEEM INITIAL FORM",
    "fcd6 ARABIC LIGATURE |NOON WITH HEH INITIAL FORM|HEH WITH JEEM INITIAL FORM",
    "fcd8 ARABIC LIGATURE HEH WITH |MEEM INITIAL FORM|SUPERSCRIPT ALEF INITIAL FORM",
    "fcda ARABIC LIGATURE YEH WITH |JEEM INITIAL FORM|HAH INITIAL FORM",
    "fcdc ARABIC LIGATURE YEH WITH |KHAH INITIAL FORM|MEEM INITIAL FORM|HEH INITIAL FORM",
    "fcdf ARABIC LIGATURE YEH WITH HAMZA ABOVE WITH |MEEM MEDIAL FORM|HEH MEDIAL FORM",
    "fce1 ARABIC LIGATURE BEH WITH |MEEM MEDIAL FORM|HEH MEDIAL FORM",
    "fce3 ARABIC LIGATURE TEH WITH |MEEM MEDIAL FORM|HEH MEDIAL FORM",
    "fce5 ARABIC LIGATURE THEH WITH |MEEM MEDIAL FORM|HEH MEDIAL FORM",
    "fce7 ARABIC LIGATURE SEEN WITH |MEEM MEDIAL FORM|HEH MEDIAL FORM",
    "fce9 ARABIC LIGATURE SHEEN WITH |MEEM MEDIAL FORM|HEH MEDIAL FORM",
    "fceb ARABIC LIGATURE KAF WITH |LAM MEDIAL FORM|MEEM MEDIAL FORM",
    "fced |ARABIC LIGATURE LAM WITH MEEM MEDIAL FORM",
    "fcee ARABIC LIGATURE NOON WITH |MEEM MEDIAL FORM|HEH MEDIAL FORM",
    "fcf0 ARABIC LIGATURE YEH WITH |MEEM MEDIAL FORM|HEH MEDIAL FORM",
    "fcf2 ARABIC LIGATURE SHADDA WITH |FATHA MEDIAL FORM|DAMMA MEDIAL FORM|KASRA MEDIAL FORM",
    "fcf5 ARABIC LIGATURE TAH WITH |ALEF MAKSURA ISOLATED FORM|YEH ISOLATED FORM",
    "fcf7 ARABIC LIGATURE AIN WITH |ALEF MAKSURA ISOLATED FORM|YEH ISOLATED FORM",
    "fcf9 ARABIC LIGATURE GHAIN WITH |ALEF MAKSURA ISOLATED FORM|YEH ISOLATED FORM",
    "fcfb ARABIC LIGATURE SEEN WITH |ALEF MAKSURA ISOLATED FORM|YEH ISOLATED FORM",
    "fcfd ARABIC LIGATURE SHEEN WITH |ALEF MAKSURA ISOLATED FORM|YEH ISOLATED FORM",
    "fcff ARABIC LIGATURE HAH WITH |ALEF MAKSURA ISOLATED FORM|YEH ISOLATED FORM",
    "fd01 ARABIC LIGATURE JEEM WITH |ALEF MAKSURA ISOLATED FORM|YEH ISOLATED FORM",
    "fd03 ARABIC LIGATURE KHAH WITH |ALEF MAKSURA ISOLATED FORM|YEH ISOLATED FORM",
    "fd05 ARABIC LIGATURE SAD WITH |ALEF MAKSURA ISOLATED FORM|YEH ISOLATED FORM",
    "fd07 ARABIC LIGATURE DAD WITH |ALEF MAKSURA ISOLATED FORM|YEH ISOLATED FORM",
    "fd09 ARABIC LIGATURE SHEEN WITH |JEEM ISOLATED FORM|HAH ISOLATED FORM",
    "fd0b ARABIC LIGATURE SHEEN WITH |KHAH ISOLATED FORM|MEEM ISOLATED FORM|REH ISOLATED FORM",
    "fd0e |ARABIC LIGATURE SEEN WITH REH ISOLATED FORM",
    "fd0f ARABIC LIGATURE |SAD WITH REH ISOLATED FORM|DAD WITH REH ISOLATED FORM",
    "fd11 ARABIC LIGATURE TAH WITH |ALEF MAKSURA FINAL FORM|YEH FINAL FORM",
    "fd13 ARABIC LIGATURE AIN WITH |ALEF MAKSURA FINAL FORM|YEH FINAL FORM",
    "fd15 ARABIC LIGATURE GHAIN WITH |ALEF MAKSURA FINAL FORM|YEH FINAL FORM",
    "fd17 ARABIC LIGATURE SEEN WITH |ALEF MAKSURA FINAL FORM|YEH FINAL FORM",
    "fd19 ARABIC LIGATURE SHEEN WITH |ALEF MAKSURA FINAL FORM|YEH FINAL FORM",
    "fd1b ARABIC LIGATURE HAH WITH |ALEF MAKSURA FINAL FORM|YEH FINAL FORM",
    "fd1d ARABIC LIGATURE JEEM WITH |ALEF MAKSURA FINAL FORM|YEH FINAL FORM",
    "fd1f ARABIC LIGATURE KHAH WITH |ALEF MAKSURA FINAL FORM|YEH FINAL FORM",
    "fd21 ARABIC LIGATURE SAD WITH |ALEF MAKSURA FINAL FORM|YEH FINAL FORM",
    "fd23 ARABIC LIGATURE DAD WITH |ALEF MAKSURA FINAL FORM|YEH FINAL FORM",
    "fd25 ARABIC LIGATURE SHEEN WITH |JEEM FINAL FORM|HAH FINAL FORM",
    "fd27 ARABIC LIGATURE SHEEN WITH |KHAH FINAL FORM|MEEM FINAL FORM|REH FINAL FORM",
    "fd2a |ARABIC LIGATURE SEEN WITH REH FINAL FORM",
    "fd2b ARABIC LIGATURE |SAD WITH REH FINAL FORM|DAD WITH REH FINAL FORM",
    "fd2d ARABIC LIGATURE SHEEN WITH |JEEM INITIAL FORM|HAH INITIAL FORM|KHAH INITIAL FORM",
    "fd30 ARABIC LIGATURE |SHEEN WITH MEEM INITIAL FORM|SEEN WITH HEH INITIAL FORM",
    "fd32 ARABIC LIGATURE |SHEEN WITH HEH INITIAL FORM|TAH WITH MEEM INITIAL FORM",
    "fd34 ARABIC LIGATURE SEEN WITH |JEEM MEDIAL FORM|HAH MEDIAL FORM|KHAH MEDIAL FORM",
    "fd37 ARABIC LIGATURE SHEEN WITH |JEEM MEDIAL FORM|HAH MEDIAL FORM|KHAH MEDIAL FORM",
    "fd3a ARABIC LIGATURE |TAH WITH MEEM MEDIAL FORM|ZAH WITH MEEM MEDIAL FORM",
    "fd3c ARABIC LIGATURE ALEF WITH FATHATAN |FINAL FORM|ISOLATED FORM",
    "fd3e |ORNATE LEFT PARENTHESIS|ORNATE RIGHT PARENTHESIS|ARABIC LIGATURE RAHIMAHU ALLAAH",
    "fd41 ARABIC LIGATURE RADI ALLAAHU |ANH|ANHAA|ANHUM|ANHUMAA|ANHUNNA",
    "fd46 ARABIC LIGATURE |SALLALLAAHU ALAYHI WA-AALIH|ALAYHI AS-SALAAM",
    "fd48 ARABIC LIGATURE |ALAYHIM AS-SALAAM|ALAYHIMAA AS-SALAAM|ALAYHI AS-SALAATU WAS-SALAAM",
    "fd4b ARABIC LIGATURE |QUDDISA SIRRAH|SALLALLAHU ALAYHI WAAALIHEE WA-SALLAM",
    "fd4d ARABIC LIGATURE |ALAYHAA AS-SALAAM|TABAARAKA WA-TAAALAA",
    "fd4f ARABIC LIGATURE |RAHIMAHUM ALLAAH|TEH WITH JEEM WITH MEEM INITIAL FORM",
    "fd51 ARABIC LIGATURE TEH WITH HAH WITH |JEEM FINAL FORM|JEEM INITIAL FORM|MEEM INITIAL FORM",
    "fd54 ARABIC LIGATURE TEH WITH |KHAH WITH MEEM INITIAL FORM|MEEM WITH JEEM INITIAL FORM",
    "fd56 ARABIC LIGATURE TEH WITH MEEM WITH |HAH INITIAL FORM|KHAH INITIAL FORM",
    "fd58 ARABIC LIGATURE JEEM WITH MEEM WITH HAH |FINAL FORM|INITIAL FORM",
    "fd5a ARABIC LIGATURE HAH WITH MEEM WITH |YEH FINAL FORM|ALEF MAKSURA FINAL FORM",
    "fd5c |ARABIC LIGATURE SEEN WITH HAH WITH JEEM INITIAL FORM",
    "fd5d ARABIC LIGATURE SEEN WITH JEEM WITH |HAH INITIAL FORM|ALEF MAKSURA FINAL FORM",
    "fd5f ARABIC LIGATURE SEEN WITH MEEM WITH |HAH FINAL FORM|HAH INITIAL FORM|JEEM INITIAL FORM",
    "fd62 ARABIC LIGATURE SEEN WITH MEEM WITH MEEM |FINAL FORM|INITIAL FORM",
    "fd64 ARABIC LIGATURE SAD WITH HAH WITH HAH |FINAL FORM|INITIAL FORM",
    "fd66 |ARABIC LIGATURE SAD WITH MEEM WITH MEEM FINAL FORM",
    "fd67 ARABIC LIGATURE SHEEN WITH HAH WITH MEEM |FINAL FORM|INITIAL FORM",
    "fd69 |ARABIC LIGATURE SHEEN WITH JEEM WITH YEH FINAL FORM",
    "fd6a ARABIC LIGATURE SHEEN WITH MEEM WITH KHAH |FINAL FORM|INITIAL FORM",
    "fd6c ARABIC LIGATURE SHEEN WITH MEEM WITH MEEM |FINAL FORM|INITIAL FORM",
    "fd6e |ARABIC LIGATURE DAD WITH HAH WITH ALEF MAKSURA FINAL FORM",
    "fd6f ARABIC LIGATURE DAD WITH KHAH WITH MEEM |FINAL FORM|INITIAL FORM",
    "fd71 ARABIC LIGATURE TAH WITH MEEM WITH HAH |FINAL FORM|INITIAL FORM",
    "fd73 ARABIC LIGATURE TAH WITH MEEM WITH |MEEM INITIAL FORM|YEH FINAL FORM",
    "fd75 ARABIC LIGATURE AIN WITH |JEEM WITH MEEM FINAL FORM|MEEM WITH MEEM FINAL FORM",
    "fd77 ARABIC LIGATURE AIN WITH MEEM WITH |MEEM INITIAL FORM|ALEF MAKSURA FINAL FORM",
    "fd79 |ARABIC LIGATURE GHAIN WITH MEEM WITH MEEM FINAL FORM",
    "fd7a ARABIC LIGATURE GHAIN WITH MEEM WITH |YEH FINAL FORM|ALEF MAKSURA FINAL FORM",
    "fd7c ARABIC LIGATURE FEH WITH KHAH WITH MEEM |FINAL FORM|INITIAL FORM",
    "fd7e ARABIC LIGATURE QAF WITH MEEM WITH |HAH FINAL FORM|MEEM FINAL FORM",
    "fd80 |ARABIC LIGATURE LAM WITH HAH WITH MEEM FINAL FORM",
    "fd81 ARABIC LIGATURE LAM WITH HAH WITH |YEH FINAL FORM|ALEF MAKSURA FINAL FORM",
    "fd83 ARABIC LIGATURE LAM WITH JEEM WITH JEEM |INITIAL FORM|FINAL FORM",
    "fd85 ARABIC LIGATURE LAM WITH KHAH WITH MEEM |FINAL FORM|INITIAL FORM",
    "fd87 ARABIC LIGATURE LAM WITH MEEM WITH HAH |FINAL FORM|INITIAL FORM",
    "fd89 ARABIC LIGATURE MEEM WITH HAH WITH |JEEM INITIAL FORM|MEEM INITIAL FORM|YEH FINAL FORM",
    "fd8c ARABIC LIGATURE MEEM WITH JEEM WITH |HAH INITIAL FORM|MEEM INITIAL FORM",
    "fd8e ARABIC LIGATURE MEEM WITH KHAH WITH |JEEM INITIAL FORM|MEEM INITIAL FORM",
    "fd92 |ARABIC LIGATURE MEEM WITH JEEM WITH KHAH INITIAL FORM",
    "fd93 ARABIC LIGATURE HEH WITH MEEM WITH |JEEM INITIAL FORM|MEEM INITIAL FORM",
    "fd95 ARABIC LIGATURE NOON WITH HAH WITH |MEEM INITIAL FORM|ALEF MAKSURA FINAL FORM",
    "fd97 ARABIC LIGATURE NOON WITH JEEM WITH MEEM |FINAL FORM|INITIAL FORM",
    "fd99 |ARABIC LIGATURE NOON WITH JEEM WITH ALEF MAKSURA FINAL FORM",
    "fd9a ARABIC LIGATURE NOON WITH MEEM WITH |YEH FINAL FORM|ALEF MAKSURA FINAL FORM",
    "fd9c ARABIC LIGATURE YEH WITH MEEM WITH MEEM |FINAL FORM|INITIAL FORM",
    "fd9e |ARABIC LIGATURE BEH WITH KHAH WITH YEH FINAL FORM",
    "fd9f ARABIC LIGATURE TEH WITH JEEM WITH |YEH FINAL FORM|ALEF MAKSURA FINAL FORM",
    "fda1 ARABIC LIGATURE TEH WITH KHAH WITH |YEH FINAL FORM|ALEF MAKSURA FINAL FORM",
    "fda3 ARABIC LIGATURE TEH WITH MEEM WITH |YEH FINAL FORM|ALEF MAKSURA FINAL FORM",
    "fda5 ARABIC LIGATURE JEEM WITH |MEEM WITH YEH FINAL FORM|HAH WITH ALEF MAKSURA FINAL FORM",
    "fda7 |ARABIC LIGATURE JEEM WITH MEEM WITH ALEF MAKSURA FINAL FORM",
    "fda8 |ARABIC LIGATURE SEEN WITH KHAH WITH ALEF MAKSURA FINAL FORM",
    "fda9 ARABIC LIGATURE |SAD WITH HAH WITH YEH FINAL FORM|SHEEN WITH HAH WITH YEH FINAL FORM",
    "fdab ARABIC LIGATURE |DAD WITH HAH WITH YEH FINAL FORM|LAM WITH JEEM WITH YEH FINAL FORM",
    "fdad ARABIC LIGATURE |LAM WITH MEEM WITH YEH FINAL FORM|YEH WITH HAH WITH YEH FINAL FORM",
    "fdaf ARABIC LIGATURE YEH WITH |JEEM WITH YEH FINAL FORM|MEEM WITH YEH FINAL FORM",
    "fdb1 ARABIC LIGATURE |MEEM WITH MEEM WITH YEH FINAL FORM|QAF WITH MEEM WITH YEH FINAL FORM",
    "fdb3 ARABIC LIGATURE |NOON WITH HAH WITH YEH FINAL FORM|QAF WITH MEEM WITH HAH INITIAL FORM",
    "fdb5 |ARABIC LIGATURE LAM WITH HAH WITH MEEM INITIAL FORM",
    "fdb6 ARABIC LIGATURE |AIN WITH MEEM WITH YEH FINAL FORM|KAF WITH MEEM WITH YEH FINAL FORM",
    "fdb8 |ARABIC LIGATURE NOON WITH JEEM WITH HAH INITIAL FORM",
    "fdb9 |ARABIC LIGATURE MEEM WITH KHAH WITH YEH FINAL FORM",
    "fdba |ARABIC LIGATURE LAM WITH JEEM WITH MEEM INITIAL FORM",
    "fdbb |ARABIC LIGATURE KAF WITH MEEM WITH MEEM FINAL FORM",
    "fdbc ARABIC LIGATURE |LAM WITH JEEM WITH MEEM FINAL FORM|NOON WITH JEEM WITH HAH FINAL FORM",
    "fdbe ARABIC LIGATURE |JEEM WITH HAH WITH YEH FINAL FORM|HAH WITH JEEM WITH YEH FINAL FORM",
    "fdc0 ARABIC LIGATURE |MEEM WITH JEEM WITH YEH FINAL FORM|FEH WITH MEEM WITH YEH FINAL FORM",
    "fdc2 ARABIC LIGATURE |BEH WITH HAH WITH YEH FINAL FORM|KAF WITH MEEM WITH MEEM INITIAL FORM",
    "fdc4 |ARABIC LIGATURE AIN WITH JEEM WITH MEEM INITIAL FORM",
    "fdc5 |ARABIC LIGATURE SAD WITH MEEM WITH MEEM INITIAL FORM",
    "fdc6 ARABIC LIGATURE |SEEN WITH KHAH WITH YEH FINAL FORM|NOON WITH JEEM WITH YEH FINAL FORM",
    "fdcf |ARABIC LIGATURE SALAAMUHU ALAYNAA",
    "fdf0 |ARABIC LIGATURE SALLA USED AS KORANIC STOP SIGN ISOLATED FORM",
    "fdf1 ARABIC LIGATURE |QALA USED AS KORANIC STOP SIGN ISOLATED FORM|ALLAH ISOLATED FORM",
    "fdf3 ARABIC LIGATURE |AKBAR ISOLATED FORM|MOHAMMAD ISOLATED FORM|SALAM ISOLATED FORM",
    "fdf6 ARABIC LIGATURE |RASOUL ISOLATED FORM|ALAYHE ISOLATED FORM|WASALLAM ISOLATED FORM",
    "fdf9 ARABIC LIGATURE |SALLA ISOLATED FORM|SALLALLAHOU ALAYHE WASALLAM|JALLAJALALOUHOU",
    "fdfc |RIAL SIGN",
    "fdfd ARABIC LIGATURE |BISMILLAH AR-RAHMAN AR-RAHEEM|SUBHAANAHU WA TAAALAA|AZZA WA JALL",
    "fe00 VARIATION |SELECTOR-1|SELECTOR-2|SELECTOR-3|SELECTOR-4",
    "fe04 VARIATION |SELECTOR-5|SELECTOR-6|SELECTOR-7|SELECTOR-8|SELECTOR-9|SELECTOR-10",
    "fe0a VARIATION |SELECTOR-11|SELECTOR-12|SELECTOR-13|SELECTOR-14|SELECTOR-15|SELECTOR-16",
    "fe10 PRESENTATION FORM FOR VERTICAL |COMMA|IDEOGRAPHIC COMMA",
    "fe12 PRESENTATION FORM FOR VERTICAL |IDEOGRAPHIC FULL STOP|COLON|SEMICOLON|EXCLAMATION MARK",
    "fe16 PRESENTATION FORM FOR VERTICAL |QUESTION MARK|LEFT WHITE LENTICULAR BRACKET",
    "fe18 PRESENTATION FORM FOR VERTICAL |RIGHT WHITE LENTICULAR BRAKCET|HORIZONTAL ELLIPSIS",
    "fe20 COMBINING LIGATURE |LEFT HALF|RIGHT HALF",
    "fe22 COMBINING DOUBLE TILDE |LEFT HALF|RIGHT HALF",
    "fe24 COMBINING |MACRON LEFT HALF|MACRON RIGHT HALF|CONJOINING MACRON",
    "fe27 COMBINING LIGATURE |LEFT HALF BELOW|RIGHT HALF BELOW",
    "fe29 COMBINING TILDE |LEFT HALF BELOW|RIGHT HALF BELOW",
    "fe2b COMBINING |MACRON LEFT HALF BELOW|MACRON RIGHT HALF BELOW|CONJOINING MACRON BELOW",
    "fe2e COMBINING CYRILLIC TITLO |LEFT HALF|RIGHT HALF",
    "fe30 PRESENTATION FORM FOR VERTICAL |TWO DOT LEADER|EM DASH|EN DASH|LOW LINE|WAVY LOW LINE",
    "fe35 PRESENTATION FORM FOR VERTICAL |LEFT PARENTHESIS|RIGHT PARENTHESIS|LEFT CURLY BRACKET",
    "fe38 PRESENTATION FORM FOR VERTICAL |RIGHT CURLY BRACKET|LEFT TORTOISE SHELL BRACKET",
    "fe3a |PRESENTATION FORM FOR VERTICAL RIGHT TORTOISE SHELL BRACKET",
    "fe3b |PRESENTATION FORM FOR VERTICAL LEFT BLACK LENTICULAR BRACKET",
    "fe3c |PRESENTATION FORM FOR VERTICAL RIGHT BLACK LENTICULAR BRACKET",
    "fe3d PRESENTATION FORM FOR VERTICAL |LEFT DOUBLE ANGLE BRACKET|RIGHT DOUBLE ANGLE BRACKET",
    "fe3f PRESENTATION FORM FOR VERTICAL |LEFT ANGLE BRACKET|RIGHT ANGLE BRACKET",
    "fe41 PRESENTATION FORM FOR VERTICAL |LEFT CORNER BRACKET|RIGHT CORNER BRACKET",
    "fe43 PRESENTATION FORM FOR VERTICAL |LEFT WHITE CORNER BRACKET|RIGHT WHITE CORNER BRACKET",
    "fe45 |SESAME DOT|WHITE SESAME DOT",
    "fe47 PRESENTATION FORM FOR VERTICAL |LEFT SQUARE BRACKET|RIGHT SQUARE BRACKET",
    "fe49 |DASHED OVERLINE|CENTRELINE OVERLINE",
    "fe4b |WAVY OVERLINE|DOUBLE WAVY OVERLINE|DASHED LOW LINE|CENTRELINE LOW LINE|WAVY LOW LINE",
    "fe50 SMALL |COMMA|IDEOGRAPHIC COMMA|FULL STOP",
    "fe54 SMALL |SEMICOLON|COLON|QUESTION MARK|EXCLAMATION MARK|EM DASH",
    "fe59 SMALL |LEFT PARENTHESIS|RIGHT PARENTHESIS|LEFT CURLY BRACKET|RIGHT CURLY BRACKET",
    "fe5d SMALL |LEFT TORTOISE SHELL BRACKET|RIGHT TORTOISE SHELL BRACKET|NUMBER SIGN|AMPERSAND",
    "fe61 SMALL |ASTERISK|PLUS SIGN|HYPHEN-MINUS|LESS-THAN SIGN|GREATER-THAN SIGN|EQUALS SIGN",
    "fe68 SMALL |REVERSE SOLIDUS|DOLLAR SIGN|PERCENT SIGN|COMMERCIAL AT",
    "fe70 ARABIC |FATHATAN ISOLATED FORM|TATWEEL WITH FATHATAN ABOVE",
    "fe72 ARABIC |DAMMATAN ISOLATED FORM|TAIL FRAGMENT|KASRATAN ISOLATED FORM",
    "fe76 ARABIC |FATHA ISOLATED FORM|FATHA MEDIAL FORM|DAMMA ISOLATED FORM|DAMMA MEDIAL FORM",
    "fe7a ARABIC |KASRA ISOLATED FORM|KASRA MEDIAL FORM|SHADDA ISOLATED FORM|SHADDA MEDIAL FORM",
    "fe7e ARABIC |SUKUN ISOLATED FORM|SUKUN MEDIAL FORM|LETTER HAMZA ISOLATED FORM",
    "fe81 ARABIC LETTER ALEF WITH MADDA ABOVE |ISOLATED FORM|FINAL FORM",
    "fe83 ARABIC LETTER ALEF WITH HAMZA ABOVE |ISOLATED FORM|FINAL FORM",
    "fe85 ARABIC LETTER WAW WITH HAMZA ABOVE |ISOLATED FORM|FINAL FORM",
    "fe87 ARABIC LETTER ALEF WITH HAMZA BELOW |ISOLATED FORM|FINAL FORM",
    "fe89 ARABIC LETTER YEH WITH HAMZA ABOVE |ISOLATED FORM|FINAL FORM|INITIAL FORM|MEDIAL FORM",
    "fe8d ARABIC LETTER ALEF |ISOLATED FORM|FINAL FORM",
    "fe8f ARABIC LETTER BEH |ISOLATED FORM|FINAL FORM|INITIAL FORM|MEDIAL FORM",
    "fe93 ARABIC LETTER TEH MARBUTA |ISOLATED FORM|FINAL FORM",
    "fe95 ARABIC LETTER TEH |ISOLATED FORM|FINAL FORM|INITIAL FORM|MEDIAL FORM",
    "fe99 ARABIC LETTER THEH |ISOLATED FORM|FINAL FORM|INITIAL FORM|MEDIAL FORM",
    "fe9d ARABIC LETTER JEEM |ISOLATED FORM|FINAL FORM|INITIAL FORM|MEDIAL FORM",
    "fea1 ARABIC LETTER HAH |ISOLATED FORM|FINAL FORM|INITIAL FORM|MEDIAL FORM",
    "fea5 ARABIC LETTER KHAH |ISOLATED FORM|FINAL FORM|INITIAL FORM|MEDIAL FORM",
    "fea9 ARABIC LETTER |DAL ISOLATED FORM|DAL FINAL FORM|THAL ISOLATED FORM|THAL FINAL FORM",
    "fead ARABIC LETTER |REH ISOLATED FORM|REH FINAL FORM|ZAIN ISOLATED FORM|ZAIN FINAL FORM",
    "feb1 ARABIC LETTER SEEN |ISOLATED FORM|FINAL FORM|INITIAL FORM|MEDIAL FORM",
    "feb5 ARABIC LETTER SHEEN |ISOLATED FORM|FINAL FORM|INITIAL FORM|MEDIAL FORM",
    "feb9 ARABIC LETTER SAD |ISOLATED FORM|FINAL FORM|INITIAL FORM|MEDIAL FORM",
    "febd ARABIC LETTER DAD |ISOLATED FORM|FINAL FORM|INITIAL FORM|MEDIAL FORM",
    "fec1 ARABIC LETTER TAH |ISOLATED FORM|FINAL FORM|INITIAL FORM|MEDIAL FORM",
    "fec5 ARABIC LETTER ZAH |ISOLATED FORM|FINAL FORM|INITIAL FORM|MEDIAL FORM",
    "fec9 ARABIC LETTER AIN |ISOLATED FORM|FINAL FORM|INITIAL FORM|MEDIAL FORM",
    "fecd ARABIC LETTER GHAIN |ISOLATED FORM|FINAL FORM|INITIAL FORM|MEDIAL FORM",
    "fed1 ARABIC LETTER FEH |ISOLATED FORM|FINAL FORM|INITIAL FORM|MEDIAL FORM",
    "fed5 ARABIC LETTER QAF |ISOLATED FORM|FINAL FORM|INITIAL FORM|MEDIAL FORM",
    "fed9 ARABIC LETTER KAF |ISOLATED FORM|FINAL FORM|INITIAL FORM|MEDIAL FORM",
    "fedd ARABIC LETTER LAM |ISOLATED FORM|FINAL FORM|INITIAL FORM|MEDIAL FORM",
    "fee1 ARABIC LETTER MEEM |ISOLATED FORM|FINAL FORM|INITIAL FORM|MEDIAL FORM",
    "fee5 ARABIC LETTER NOON |ISOLATED FORM|FINAL FORM|INITIAL FORM|MEDIAL FORM",
    "fee9 ARABIC LETTER HEH |ISOLATED FORM|FINAL FORM|INITIAL FORM|MEDIAL FORM",
    "feed ARABIC LETTER WAW |ISOLATED FORM|FINAL FORM",
    "feef ARABIC LETTER ALEF MAKSURA |ISOLATED FORM|FINAL FORM",
    "fef1 ARABIC LETTER YEH |ISOLATED FORM|FINAL FORM|INITIAL FORM|MEDIAL FORM",
    "fef5 ARABIC LIGATURE LAM WITH ALEF WITH MADDA ABOVE |ISOLATED FORM|FINAL FORM",
    "fef7 ARABIC LIGATURE LAM WITH ALEF WITH HAMZA ABOVE |ISOLATED FORM|FINAL FORM",
    "fef9 ARABIC LIGATURE LAM WITH ALEF WITH HAMZA BELOW |ISOLATED FORM|FINAL FORM",
    "fefb ARABIC LIGATURE LAM WITH ALEF |ISOLATED FORM|FINAL FORM",
    "feff |ZERO WIDTH NO-BREAK SPACE",
    "ff01 FULLWIDTH |EXCLAMATION MARK|QUOTATION MARK",
    "ff03 FULLWIDTH |NUMBER SIGN|DOLLAR SIGN|PERCENT SIGN|AMPERSAND|APOSTROPHE|LEFT PARENTHESIS",
    "ff09 FULLWIDTH |RIGHT PARENTHESIS|ASTERISK|PLUS SIGN|COMMA|HYPHEN-MINUS|FULL STOP|SOLIDUS",
    "ff10 FULLWIDTH DIGIT |ZERO|ONE|TWO|THREE|FOUR|FIVE|SIX|SEVEN|EIGHT|NINE",
    "ff1a FULLWIDTH |COLON|SEMICOLON",
    "ff1c FULLWIDTH |LESS-THAN SIGN|EQUALS SIGN|GREATER-THAN SIGN|QUESTION MARK|COMMERCIAL AT",
    "ff21 FULLWIDTH LATIN CAPITAL LETTER |A|B|C|D|E|F|G|H|I|J|K|L|M|N|O|P|Q|R|S|T|U|V|W|X|Y|Z",
    "ff3b FULLWIDTH |LEFT SQUARE BRACKET|REVERSE SOLIDUS",
    "ff3d FULLWIDTH |RIGHT SQUARE BRACKET|CIRCUMFLEX ACCENT|LOW LINE|GRAVE ACCENT",
    "ff41 FULLWIDTH LATIN SMALL LETTER |A|B|C|D|E|F|G|H|I|J|K|L|M|N|O|P|Q|R|S|T|U|V|W|X|Y|Z",
    "ff5b FULLWIDTH |LEFT CURLY BRACKET|VERTICAL LINE",
    "ff5d FULLWIDTH |RIGHT CURLY BRACKET|TILDE|LEFT WHITE PARENTHESIS|RIGHT WHITE PARENTHESIS",
    "ff61 HALFWIDTH |IDEOGRAPHIC FULL STOP|LEFT CORNER BRACKET|RIGHT CORNER BRACKET",
    "ff64 HALFWIDTH |IDEOGRAPHIC COMMA|KATAKANA MIDDLE DOT|KATAKANA LETTER WO",
    "ff67 HALFWIDTH KATAKANA LETTER SMALL |A|I|U|E|O|YA|YU|YO|TU",
    "ff70 |HALFWIDTH KATAKANA-HIRAGANA PROLONGED SOUND MARK",
    "ff71 HALFWIDTH KATAKANA LETTER |A|I|U|E|O",
    "ff76 HALFWIDTH KATAKANA LETTER |KA|KI|KU|KE|KO|SA|SI|SU|SE|SO|TA|TI|TU|TE|TO|NA|NI|NU|NE|NO",
    "ff8a HALFWIDTH KATAKANA LETTER |HA|HI|HU|HE|HO|MA|MI|MU|ME|MO|YA|YU|YO|RA|RI|RU|RE|RO|WA|N",
    "ff9e HALFWIDTH |KATAKANA VOICED SOUND MARK|KATAKANA SEMI-VOICED SOUND MARK|HANGUL FILLER",
    "ffa1 HALFWIDTH HANGUL LETTER |KIYEOK|SSANGKIYEOK|KIYEOK-SIOS|NIEUN|NIEUN-CIEUC",
    "ffa6 HALFWIDTH HANGUL LETTER |NIEUN-HIEUH|TIKEUT|SSANGTIKEUT|RIEUL|RIEUL-KIYEOK|RIEUL-MIEUM",
    "ffac HALFWIDTH HANGUL LETTER |RIEUL-PIEUP|RIEUL-SIOS|RIEUL-THIEUTH|RIEUL-PHIEUPH",
    "ffb0 HALFWIDTH HANGUL LETTER |RIEUL-HIEUH|MIEUM|PIEUP|SSANGPIEUP|PIEUP-SIOS|SIOS|SSANGSIOS",
    "ffb7 HALFWIDTH HANGUL LETTER |IEUNG|CIEUC|SSANGCIEUC|CHIEUCH|KHIEUKH|THIEUTH|PHIEUPH|HIEUH",
    "ffc2 HALFWIDTH HANGUL LETTER |A|AE|YA|YAE|EO|E",
    "ffca HALFWIDTH HANGUL LETTER |YEO|YE|O|WA|WAE|OE",
    "ffd2 HALFWIDTH HANGUL LETTER |YO|U|WEO|WE|WI|YU",
    "ffda HALFWIDTH HANGUL LETTER |EU|YI|I",
    "ffe0 FULLWIDTH |CENT SIGN|POUND SIGN|NOT SIGN|MACRON|BROKEN BAR|YEN SIGN|WON SIGN",
    "ffe8 HALFWIDTH |FORMS LIGHT VERTICAL|LEFTWARDS ARROW",
    "ffea HALFWIDTH |UPWARDS ARROW|RIGHTWARDS ARROW|DOWNWARDS ARROW|BLACK SQUARE|WHITE CIRCLE",
    "fff9 INTERLINEAR ANNOTATION |ANCHOR|SEPARATOR|TERMINATOR",
    "fffc |OBJECT REPLACEMENT CHARACTER|REPLACEMENT CHARACTER"]

end Name
end Text
end DebugIndex
