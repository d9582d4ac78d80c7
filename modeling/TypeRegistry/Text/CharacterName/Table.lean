/-!
# Tables of the names of characters

Each row holds a code point and entries with bars between them.

In the first table the entries are those of consecutive code points.  An entry says by its first two
digits how many words the name shares at its front and at its end with the name before it, and holds
the words between.  The table names the characters of the Latin, Greek, Cyrillic, Armenian, Hebrew,
Arabic, Devanagari, Japanese syllabic and Deseret scripts, marks, symbols and pictographs.

In the second table the entries are other names of one code point.

Main definitions:

- `nameRuns`: the names of characters.
- `furtherNames`: the names of control characters, and other names.
-/

namespace TypeRegistry.Text

/-- The names of characters, by what they share with the name before. -/
def nameRuns : List (Nat × String) :=
  [(0x20, "00SPACE|00EXCLAMATION MARK|01QUOTATION|00NUMBER SIGN|01DOLLAR|01PERCENT|00AMPERSAND"),
   (0x27, "00APOSTROPHE|00LEFT PARENTHESIS|01RIGHT|00ASTERISK|00PLUS SIGN|00COMMA|00HYPHEN-MINUS"),
   (0x2E, "00FULL STOP|00SOLIDUS|00DIGIT ZERO|10ONE|10TWO|10THREE|10FOUR|10FIVE|10SIX|10SEVEN"),
   (0x38, "10EIGHT|10NINE|00COLON|00SEMICOLON|00LESS-THAN SIGN|01EQUALS|01GREATER-THAN"),
   (0x3F, "00QUESTION MARK|00COMMERCIAL AT|00LATIN CAPITAL LETTER A|30B|30C|30D|30E|30F|30G|30H"),
   (0x49, "30I|30J|30K|30L|30M|30N|30O|30P|30Q|30R|30S|30T|30U|30V|30W|30X|30Y|30Z"),
   (0x5B, "00LEFT SQUARE BRACKET|00REVERSE SOLIDUS|00RIGHT SQUARE BRACKET|00CIRCUMFLEX ACCENT"),
   (0x5F, "00LOW LINE|00GRAVE ACCENT|00LATIN SMALL LETTER A|30B|30C|30D|30E|30F|30G|30H|30I|30J"),
   (0x6B, "30K|30L|30M|30N|30O|30P|30Q|30R|30S|30T|30U|30V|30W|30X|30Y|30Z|00LEFT CURLY BRACKET"),
   (0x7C, "00VERTICAL LINE|00RIGHT CURLY BRACKET|00TILDE"),
   (0xA0, "00NO-BREAK SPACE|00INVERTED EXCLAMATION MARK|00CENT SIGN|01POUND|01CURRENCY|01YEN"),
   (0xA6, "00BROKEN BAR|00SECTION SIGN|00DIAERESIS|00COPYRIGHT SIGN|00FEMININE ORDINAL INDICATOR"),
   (0xAB, "00LEFT-POINTING DOUBLE ANGLE QUOTATION MARK|00NOT SIGN|00SOFT HYPHEN|00REGISTERED SIGN"),
   (0xAF, "00MACRON|00DEGREE SIGN|01PLUS-MINUS|00SUPERSCRIPT TWO|10THREE|00ACUTE ACCENT"),
   (0xB5, "00MICRO SIGN|01PILCROW|00MIDDLE DOT|00CEDILLA|00SUPERSCRIPT ONE"),
   (0xBA, "00MASCULINE ORDINAL INDICATOR|00RIGHT-POINTING DOUBLE ANGLE QUOTATION MARK"),
   (0xBC, "00VULGAR FRACTION ONE QUARTER|30HALF|20THREE QUARTERS|00INVERTED QUESTION MARK"),
   (0xC0, "00LATIN CAPITAL LETTER A WITH GRAVE|50ACUTE|50CIRCUMFLEX|50TILDE|50DIAERESIS"),
   (0xC5, "50RING ABOVE|30AE|30C WITH CEDILLA|30E WITH GRAVE|50ACUTE|50CIRCUMFLEX|50DIAERESIS"),
   (0xCC, "30I WITH GRAVE|50ACUTE|50CIRCUMFLEX|50DIAERESIS|30ETH|30N WITH TILDE|30O WITH GRAVE"),
   (0xD3, "50ACUTE|50CIRCUMFLEX|50TILDE|50DIAERESIS|00MULTIPLICATION SIGN"),
   (0xD8, "00LATIN CAPITAL LETTER O WITH STROKE|30U WITH GRAVE|50ACUTE|50CIRCUMFLEX|50DIAERESIS"),
   (0xDD, "30Y WITH ACUTE|30THORN|10SMALL LETTER SHARP S|30A WITH GRAVE|50ACUTE|50CIRCUMFLEX"),
   (0xE3, "50TILDE|50DIAERESIS|50RING ABOVE|30AE|30C WITH CEDILLA|30E WITH GRAVE|50ACUTE"),
   (0xEA, "50CIRCUMFLEX|50DIAERESIS|30I WITH GRAVE|50ACUTE|50CIRCUMFLEX|50DIAERESIS|30ETH"),
   (0xF1, "30N WITH TILDE|30O WITH GRAVE|50ACUTE|50CIRCUMFLEX|50TILDE|50DIAERESIS|00DIVISION SIGN"),
   (0xF8, "00LATIN SMALL LETTER O WITH STROKE|30U WITH GRAVE|50ACUTE|50CIRCUMFLEX|50DIAERESIS"),
   (0xFD, "30Y WITH ACUTE|30THORN|30Y WITH DIAERESIS|10CAPITAL LETTER A WITH MACRON|14SMALL"),
   (0x102, "10CAPITAL LETTER A WITH BREVE|14SMALL|10CAPITAL LETTER A WITH OGONEK|14SMALL"),
   (0x106, "10CAPITAL LETTER C WITH ACUTE|14SMALL|10CAPITAL LETTER C WITH CIRCUMFLEX|14SMALL"),
   (0x10A, "10CAPITAL LETTER C WITH DOT ABOVE|15SMALL|10CAPITAL LETTER C WITH CARON|14SMALL"),
   (0x10E, "12CAPITAL LETTER D|14SMALL|10CAPITAL LETTER D WITH STROKE|14SMALL"),
   (0x112, "10CAPITAL LETTER E WITH MACRON|14SMALL|10CAPITAL LETTER E WITH BREVE|14SMALL"),
   (0x116, "10CAPITAL LETTER E WITH DOT ABOVE|15SMALL|10CAPITAL LETTER E WITH OGONEK|14SMALL"),
   (0x11A, "10CAPITAL LETTER E WITH CARON|14SMALL|10CAPITAL LETTER G WITH CIRCUMFLEX|14SMALL"),
   (0x11E, "10CAPITAL LETTER G WITH BREVE|14SMALL|10CAPITAL LETTER G WITH DOT ABOVE|15SMALL"),
   (0x122, "10CAPITAL LETTER G WITH CEDILLA|14SMALL|10CAPITAL LETTER H WITH CIRCUMFLEX|14SMALL"),
   (0x126, "10CAPITAL LETTER H WITH STROKE|14SMALL|10CAPITAL LETTER I WITH TILDE|14SMALL"),
   (0x12A, "10CAPITAL LETTER I WITH MACRON|14SMALL|10CAPITAL LETTER I WITH BREVE|14SMALL"),
   (0x12E, "10CAPITAL LETTER I WITH OGONEK|14SMALL|10CAPITAL LETTER I WITH DOT ABOVE"),
   (0x131, "10SMALL LETTER DOTLESS I|10CAPITAL LIGATURE IJ|12SMALL"),
   (0x134, "10CAPITAL LETTER J WITH CIRCUMFLEX|14SMALL|10CAPITAL LETTER K WITH CEDILLA|14SMALL"),
   (0x138, "30KRA|10CAPITAL LETTER L WITH ACUTE|14SMALL|10CAPITAL LETTER L WITH CEDILLA|14SMALL"),
   (0x13D, "10CAPITAL LETTER L WITH CARON|14SMALL|10CAPITAL LETTER L WITH MIDDLE DOT|15SMALL"),
   (0x141, "10CAPITAL LETTER L WITH STROKE|14SMALL|10CAPITAL LETTER N WITH ACUTE|14SMALL"),
   (0x145, "10CAPITAL LETTER N WITH CEDILLA|14SMALL|10CAPITAL LETTER N WITH CARON|14SMALL"),
   (0x149, "40PRECEDED BY APOSTROPHE|10CAPITAL LETTER ENG|12SMALL|10CAPITAL LETTER O WITH MACRON"),
   (0x14D, "14SMALL|10CAPITAL LETTER O WITH BREVE|14SMALL|10CAPITAL LETTER O WITH DOUBLE ACUTE"),
   (0x151, "15SMALL|10CAPITAL LIGATURE OE|12SMALL|10CAPITAL LETTER R WITH ACUTE|14SMALL"),
   (0x156, "10CAPITAL LETTER R WITH CEDILLA|14SMALL|10CAPITAL LETTER R WITH CARON|14SMALL"),
   (0x15A, "10CAPITAL LETTER S WITH ACUTE|14SMALL|10CAPITAL LETTER S WITH CIRCUMFLEX|14SMALL"),
   (0x15E, "10CAPITAL LETTER S WITH CEDILLA|14SMALL|10CAPITAL LETTER S WITH CARON|14SMALL"),
   (0x162, "10CAPITAL LETTER T WITH CEDILLA|14SMALL|10CAPITAL LETTER T WITH CARON|14SMALL"),
   (0x166, "10CAPITAL LETTER T WITH STROKE|14SMALL|10CAPITAL LETTER U WITH TILDE|14SMALL"),
   (0x16A, "10CAPITAL LETTER U WITH MACRON|14SMALL|10CAPITAL LETTER U WITH BREVE|14SMALL"),
   (0x16E, "10CAPITAL LETTER U WITH RING ABOVE|15SMALL|10CAPITAL LETTER U WITH DOUBLE ACUTE"),
   (0x171, "15SMALL|10CAPITAL LETTER U WITH OGONEK|14SMALL|10CAPITAL LETTER W WITH CIRCUMFLEX"),
   (0x175, "14SMALL|12CAPITAL LETTER Y|14SMALL|10CAPITAL LETTER Y WITH DIAERESIS|30Z WITH ACUTE"),
   (0x17A, "14SMALL|10CAPITAL LETTER Z WITH DOT ABOVE|15SMALL|10CAPITAL LETTER Z WITH CARON"),
   (0x17E, "14SMALL|30LONG S|30B WITH STROKE|10CAPITAL LETTER B WITH HOOK|50TOPBAR|14SMALL"),
   (0x184, "10CAPITAL LETTER TONE SIX|13SMALL|10CAPITAL LETTER OPEN O|30C WITH HOOK|14SMALL"),
   (0x189, "10CAPITAL LETTER AFRICAN D|30D WITH HOOK|50TOPBAR|14SMALL|30TURNED DELTA"),
   (0x18E, "10CAPITAL LETTER REVERSED E|30SCHWA|30OPEN E|30F WITH HOOK|14SMALL|12CAPITAL LETTER G"),
   (0x194, "30GAMMA|10SMALL LETTER HV|10CAPITAL LETTER IOTA|30I WITH STROKE|30K WITH HOOK|14SMALL"),
   (0x19A, "30L WITH BAR|30LAMBDA WITH STROKE|10CAPITAL LETTER TURNED M|30N WITH LEFT HOOK"),
   (0x19E, "10SMALL LETTER N WITH LONG RIGHT LEG|10CAPITAL LETTER O WITH MIDDLE TILDE|50HORN"),
   (0x1A1, "14SMALL|10CAPITAL LETTER OI|12SMALL|10CAPITAL LETTER P WITH HOOK|14SMALL|10LETTER YR"),
   (0x1A7, "10CAPITAL LETTER TONE TWO|13SMALL|10CAPITAL LETTER ESH|10LETTER REVERSED ESH LOOP"),
   (0x1AB, "10SMALL LETTER T WITH PALATAL HOOK|11CAPITAL LETTER T WITH|14SMALL"),
   (0x1AE, "11CAPITAL LETTER T WITH RETROFLEX|30U WITH HORN|14SMALL|10CAPITAL LETTER UPSILON"),
   (0x1B2, "30V WITH HOOK|32Y|14SMALL|10CAPITAL LETTER Z WITH STROKE|14SMALL|10CAPITAL LETTER EZH"),
   (0x1B8, "40REVERSED|13SMALL|40WITH TAIL|10LETTER TWO WITH STROKE|10CAPITAL LETTER TONE FIVE"),
   (0x1BD, "13SMALL|10LETTER INVERTED GLOTTAL STOP WITH STROKE|20WYNN|20DENTAL CLICK|21LATERAL"),
   (0x1C2, "21ALVEOLAR|21RETROFLEX|10CAPITAL LETTER DZ WITH CARON|32D WITH SMALL LETTER Z"),
   (0x1C6, "12SMALL LETTER DZ|10CAPITAL LETTER LJ|30L WITH SMALL LETTER J|10SMALL LETTER LJ"),
   (0x1CA, "10CAPITAL LETTER NJ|30N WITH SMALL LETTER J|10SMALL LETTER NJ"),
   (0x1CD, "10CAPITAL LETTER A WITH CARON|14SMALL|12CAPITAL LETTER I|14SMALL|12CAPITAL LETTER O"),
   (0x1D2, "14SMALL|12CAPITAL LETTER U|14SMALL|10CAPITAL LETTER U WITH DIAERESIS AND MACRON"),
   (0x1D6, "16SMALL|10CAPITAL LETTER U WITH DIAERESIS AND ACUTE|16SMALL"),
   (0x1D9, "10CAPITAL LETTER U WITH DIAERESIS AND CARON|16SMALL"),
   (0x1DB, "10CAPITAL LETTER U WITH DIAERESIS AND GRAVE|16SMALL|30TURNED E"),
   (0x1DE, "10CAPITAL LETTER A WITH DIAERESIS AND MACRON|16SMALL"),
   (0x1E0, "12CAPITAL LETTER A WITH DOT ABOVE|17SMALL|11CAPITAL LETTER AE WITH|14SMALL"),
   (0x1E4, "10CAPITAL LETTER G WITH STROKE|14SMALL|10CAPITAL LETTER G WITH CARON|14SMALL"),
   (0x1E8, "12CAPITAL LETTER K|14SMALL|10CAPITAL LETTER O WITH OGONEK|14SMALL"),
   (0x1EC, "10CAPITAL LETTER O WITH OGONEK AND MACRON|16SMALL|10CAPITAL LETTER EZH WITH CARON"),
   (0x1EF, "14SMALL|32J|10CAPITAL LETTER DZ|30D WITH SMALL LETTER Z|10SMALL LETTER DZ"),
   (0x1F4, "10CAPITAL LETTER G WITH ACUTE|14SMALL|10CAPITAL LETTER HWAIR|30WYNN|30N WITH GRAVE"),
   (0x1F9, "14SMALL|10CAPITAL LETTER A WITH RING ABOVE AND ACUTE|17SMALL|11CAPITAL LETTER AE WITH"),
   (0x1FD, "14SMALL|11CAPITAL LETTER O WITH STROKE AND|16SMALL"),
   (0x200, "10CAPITAL LETTER A WITH DOUBLE GRAVE|15SMALL|10CAPITAL LETTER A WITH INVERTED BREVE"),
   (0x203, "15SMALL|10CAPITAL LETTER E WITH DOUBLE GRAVE|15SMALL"),
   (0x206, "10CAPITAL LETTER E WITH INVERTED BREVE|15SMALL|10CAPITAL LETTER I WITH DOUBLE GRAVE"),
   (0x209, "15SMALL|10CAPITAL LETTER I WITH INVERTED BREVE|15SMALL"),
   (0x20C, "10CAPITAL LETTER O WITH DOUBLE GRAVE|15SMALL|10CAPITAL LETTER O WITH INVERTED BREVE"),
   (0x20F, "15SMALL|10CAPITAL LETTER R WITH DOUBLE GRAVE|15SMALL"),
   (0x212, "10CAPITAL LETTER R WITH INVERTED BREVE|15SMALL|10CAPITAL LETTER U WITH DOUBLE GRAVE"),
   (0x215, "15SMALL|10CAPITAL LETTER U WITH INVERTED BREVE|15SMALL"),
   (0x218, "10CAPITAL LETTER S WITH COMMA BELOW|15SMALL|13CAPITAL LETTER T|15SMALL"),
   (0x21C, "10CAPITAL LETTER YOGH|12SMALL|10CAPITAL LETTER H WITH CARON|14SMALL"),
   (0x220, "10CAPITAL LETTER N WITH LONG RIGHT LEG|10SMALL LETTER D WITH CURL|10CAPITAL LETTER OU"),
   (0x223, "12SMALL|10CAPITAL LETTER Z WITH HOOK|14SMALL|10CAPITAL LETTER A WITH DOT ABOVE"),
   (0x227, "15SMALL|10CAPITAL LETTER E WITH CEDILLA|14SMALL"),
   (0x22A, "10CAPITAL LETTER O WITH DIAERESIS AND MACRON|16SMALL|12CAPITAL LETTER O WITH TILDE"),
   (0x22D, "16SMALL|10CAPITAL LETTER O WITH DOT ABOVE|15SMALL"),
   (0x230, "10CAPITAL LETTER O WITH DOT ABOVE AND MACRON|17SMALL|11CAPITAL LETTER Y WITH|14SMALL"),
   (0x234, "30L WITH CURL|32N|32T|30DOTLESS J|30DB DIGRAPH|31QP|10CAPITAL LETTER A WITH STROKE"),
   (0x23B, "32C|14SMALL|10CAPITAL LETTER L WITH BAR|30T WITH DIAGONAL STROKE"),
   (0x23F, "10SMALL LETTER S WITH SWASH TAIL|33Z|10CAPITAL LETTER GLOTTAL STOP|13SMALL"),
   (0x243, "10CAPITAL LETTER B WITH STROKE|30U BAR|30TURNED V|30E WITH STROKE|14SMALL"),
   (0x248, "12CAPITAL LETTER J|14SMALL|10CAPITAL LETTER SMALL Q WITH HOOK TAIL|14SMALL LETTER"),
   (0x24C, "10CAPITAL LETTER R WITH STROKE|14SMALL|12CAPITAL LETTER Y|14SMALL|30TURNED A|30ALPHA"),
   (0x252, "31TURNED|30B WITH HOOK|30OPEN O|30C WITH CURL|30D WITH TAIL|50HOOK|30REVERSED E"),
   (0x259, "30SCHWA|40WITH HOOK|30OPEN E|32REVERSED|60WITH HOOK|30CLOSED REVERSED OPEN E"),
   (0x25F, "30DOTLESS J WITH STROKE|30G WITH HOOK|30SCRIPT G|11LETTER SMALL CAPITAL"),
   (0x263, "10SMALL LETTER GAMMA|30RAMS HORN|30TURNED H|30H WITH HOOK|32HENG|30I WITH STROKE"),
   (0x269, "30IOTA|10LETTER SMALL CAPITAL I|10SMALL LETTER L WITH MIDDLE TILDE|50BELT"),
   (0x26D, "50RETROFLEX HOOK|30LEZH|30TURNED M|50WITH LONG LEG|30M WITH HOOK|31N WITH LEFT"),
   (0x273, "51RETROFLEX|10LETTER SMALL CAPITAL N|10SMALL LETTER BARRED O"),
   (0x276, "10LETTER SMALL CAPITAL OE|10SMALL LETTER CLOSED OMEGA|30PHI|30TURNED R"),
   (0x27A, "50WITH LONG LEG|60HOOK|30R WITH LONG LEG|50TAIL|50FISHHOOK|33REVERSED"),
   (0x280, "10LETTER SMALL CAPITAL R|41INVERTED|10SMALL LETTER S WITH HOOK|30ESH"),
   (0x284, "30DOTLESS J WITH STROKE AND HOOK|30SQUAT REVERSED ESH|30ESH WITH CURL|30TURNED T"),
   (0x288, "30T WITH RETROFLEX HOOK|30U BAR|30UPSILON|30V WITH HOOK|30TURNED V|40W|40Y"),
   (0x28F, "11LETTER SMALL CAPITAL|10SMALL LETTER Z WITH RETROFLEX HOOK|50CURL|30EZH|40WITH CURL"),
   (0x294, "10LETTER GLOTTAL STOP|20PHARYNGEAL VOICED FRICATIVE|20INVERTED GLOTTAL STOP"),
   (0x297, "20STRETCHED C|20BILABIAL CLICK|20SMALL CAPITAL B|10SMALL LETTER CLOSED OPEN E"),
   (0x29B, "10LETTER SMALL CAPITAL G WITH HOOK|40H|10SMALL LETTER J WITH CROSSED-TAIL|30TURNED K"),
   (0x29F, "10LETTER SMALL CAPITAL L|10SMALL LETTER Q WITH HOOK|10LETTER GLOTTAL STOP WITH STROKE"),
   (0x2A2, "24REVERSED|10SMALL LETTER DZ DIGRAPH|31DEZH|30DZ DIGRAPH WITH CURL|30TS DIGRAPH"),
   (0x2A7, "31TESH|30TC DIGRAPH WITH CURL|30FENG DIGRAPH|31LS|31LZ|10LETTER BILABIAL PERCUSSIVE"),
   (0x2AD, "21BIDENTAL|10SMALL LETTER TURNED H WITH FISHHOOK|70AND TAIL|00MODIFIER LETTER SMALL H"),
   (0x2B1, "40WITH HOOK|30J|30R|31TURNED|50WITH HOOK|30CAPITAL INVERTED R|30W|30Y|20PRIME"),
   (0x2BA, "21DOUBLE|20TURNED COMMA|20APOSTROPHE|20REVERSED COMMA|20RIGHT HALF RING|22LEFT"),
   (0x2C0, "20GLOTTAL STOP|22REVERSED|20LEFT ARROWHEAD|21RIGHT|21UP|21DOWN|20CIRCUMFLEX ACCENT"),
   (0x2C7, "00CARON|00MODIFIER LETTER VERTICAL LINE|20MACRON|20ACUTE ACCENT|21GRAVE"),
   (0x2CC, "20LOW VERTICAL LINE|30MACRON|30GRAVE ACCENT|31ACUTE|20TRIANGULAR COLON|22HALF"),
   (0x2D2, "20CENTRED RIGHT HALF RING|32LEFT|20UP TACK|21DOWN|20PLUS SIGN|21MINUS|00BREVE"),
   (0x2D9, "00DOT ABOVE|01RING|00OGONEK|00SMALL TILDE|00DOUBLE ACUTE ACCENT"),
   (0x2DE, "00MODIFIER LETTER RHOTIC HOOK|20CROSS ACCENT|20SMALL GAMMA|30L|30S|30X"),
   (0x2E4, "30REVERSED GLOTTAL STOP|20EXTRA-HIGH TONE BAR|22HIGH|22MID|22LOW|22EXTRA-LOW"),
   (0x2EA, "20YIN DEPARTING TONE MARK|23YANG|20VOICING|20UNASPIRATED|20DOUBLE APOSTROPHE"),
   (0x2EF, "20LOW DOWN ARROWHEAD|31UP|31LEFT|31RIGHT|30RING|20MIDDLE GRAVE ACCENT|32DOUBLE"),
   (0x2F6, "41ACUTE|20LOW TILDE|20RAISED COLON|20BEGIN HIGH TONE|22END|21BEGIN LOW|22END|20SHELF"),
   (0x2FE, "21OPEN|20LOW LEFT ARROW|00COMBINING GRAVE ACCENT|11ACUTE|11CIRCUMFLEX|10TILDE"),
   (0x304, "10MACRON|10OVERLINE|10BREVE|10DOT ABOVE|10DIAERESIS|10HOOK ABOVE|11RING"),
   (0x30B, "10DOUBLE ACUTE ACCENT|10CARON|10VERTICAL LINE ABOVE|13DOUBLE|20GRAVE ACCENT"),
   (0x310, "10CANDRABINDU|10INVERTED BREVE|10TURNED COMMA ABOVE|12|12REVERSED|10COMMA ABOVE RIGHT"),
   (0x316, "10GRAVE ACCENT BELOW|12ACUTE|11LEFT TACK|12RIGHT|10LEFT ANGLE ABOVE|10HORN"),
   (0x31C, "10LEFT HALF RING BELOW|11UP TACK|12DOWN|11PLUS SIGN|12MINUS|11PALATALIZED HOOK"),
   (0x322, "12RETROFLEX|11DOT|11DIAERESIS|11RING|11COMMA|10CEDILLA|10OGONEK|10VERTICAL LINE BELOW"),
   (0x32A, "11BRIDGE|11INVERTED DOUBLE ARCH|11CARON|11CIRCUMFLEX ACCENT|11BREVE|12INVERTED"),
   (0x330, "11TILDE|11MACRON|10LOW LINE|12DOUBLE|10TILDE OVERLAY|11SHORT STROKE|12LONG"),
   (0x337, "11SHORT SOLIDUS|12LONG|10RIGHT HALF RING BELOW|11INVERTED BRIDGE|11SQUARE|11SEAGULL"),
   (0x33D, "10X ABOVE|10VERTICAL TILDE|10DOUBLE OVERLINE|10GRAVE TONE MARK|12ACUTE"),
   (0x342, "10GREEK PERISPOMENI|20KORONIS|20DIALYTIKA TONOS|20YPOGEGRAMMENI|10BRIDGE ABOVE"),
   (0x347, "10EQUALS SIGN BELOW|11DOUBLE VERTICAL LINE|11LEFT ANGLE|10NOT TILDE ABOVE"),
   (0x34B, "11HOMOTHETIC|11ALMOST EQUAL TO|10LEFT RIGHT ARROW BELOW|12UPWARDS|10GRAPHEME JOINER"),
   (0x350, "10RIGHT ARROWHEAD ABOVE|11LEFT HALF RING|10FERMATA|10X BELOW|11LEFT ARROWHEAD|12RIGHT"),
   (0x356, "31AND UP ARROWHEAD|20HALF RING ABOVE|10DOT ABOVE RIGHT|10ASTERISK BELOW|11DOUBLE RING"),
   (0x35B, "10ZIGZAG ABOVE|10DOUBLE BREVE BELOW|30|20MACRON|30BELOW|20TILDE|20INVERTED BREVE"),
   (0x362, "20RIGHTWARDS ARROW BELOW|10LATIN SMALL LETTER A|40E|40I|40O|40U|40C|40D|40H|40M|40R"),
   (0x36D, "40T|40V|40X|00GREEK CAPITAL LETTER HETA|12SMALL|10CAPITAL LETTER ARCHAIC SAMPI"),
   (0x373, "13SMALL|10NUMERAL SIGN|12LOWER|10CAPITAL LETTER PAMPHYLIAN DIGAMMA|13SMALL"),
   (0x37A, "10YPOGEGRAMMENI|10SMALL REVERSED LUNATE SIGMA SYMBOL|23DOTTED|24REVERSED"),
   (0x37E, "10QUESTION MARK|10CAPITAL LETTER YOT"),
   (0x384, "10TONOS|11DIALYTIKA|11CAPITAL LETTER ALPHA WITH|10ANO TELEIA"),
   (0x388, "10CAPITAL LETTER EPSILON WITH TONOS|32ETA|32IOTA"),
   (0x38C, "32OMICRON"),
   (0x38E, "32UPSILON|32OMEGA|11SMALL LETTER IOTA WITH DIALYTIKA AND|10CAPITAL LETTER ALPHA"),
   (0x392, "30BETA|30GAMMA|30DELTA|30EPSILON|30ZETA|30ETA|30THETA|30IOTA|30KAPPA|30LAMDA|30MU"),
   (0x39D, "30NU|30XI|30OMICRON|30PI|30RHO"),
   (0x3A3, "30SIGMA|30TAU|30UPSILON|30PHI|30CHI|30PSI|30OMEGA|30IOTA WITH DIALYTIKA|32UPSILON"),
   (0x3AC, "10SMALL LETTER ALPHA WITH TONOS|32EPSILON|32ETA|32IOTA|31UPSILON WITH DIALYTIKA AND"),
   (0x3B1, "30ALPHA|30BETA|30GAMMA|30DELTA|30EPSILON|30ZETA|30ETA|30THETA|30IOTA|30KAPPA|30LAMDA"),
   (0x3BC, "30MU|30NU|30XI|30OMICRON|30PI|30RHO|30FINAL SIGMA|31|30TAU|30UPSILON|30PHI|30CHI"),
   (0x3C8, "30PSI|30OMEGA|30IOTA WITH DIALYTIKA|32UPSILON|30OMICRON WITH TONOS|32UPSILON|32OMEGA"),
   (0x3CF, "10CAPITAL KAI SYMBOL|11BETA|11THETA|11UPSILON WITH HOOK|32ACUTE AND|33DIAERESIS|11PHI"),
   (0x3D6, "11PI|11KAI|10LETTER ARCHAIC KOPPA|13SMALL|10LETTER STIGMA|12SMALL|10LETTER DIGAMMA"),
   (0x3DD, "12SMALL|10LETTER KOPPA|12SMALL|10LETTER SAMPI|12SMALL|00COPTIC CAPITAL LETTER SHEI"),
   (0x3E3, "12SMALL|10CAPITAL LETTER FEI|12SMALL|10CAPITAL LETTER KHEI|12SMALL"),
   (0x3E8, "10CAPITAL LETTER HORI|12SMALL|10CAPITAL LETTER GANGIA|12SMALL|10CAPITAL LETTER SHIMA"),
   (0x3ED, "12SMALL|10CAPITAL LETTER DEI|12SMALL|00GREEK KAPPA SYMBOL|11RHO|11LUNATE SIGMA"),
   (0x3F3, "10LETTER YOT|10CAPITAL THETA SYMBOL|11LUNATE EPSILON|13REVERSED|10CAPITAL LETTER SHO"),
   (0x3F8, "12SMALL|10CAPITAL LUNATE SIGMA SYMBOL|20LETTER SAN|12SMALL|10RHO WITH STROKE SYMBOL"),
   (0x3FD, "11CAPITAL REVERSED LUNATE SIGMA|23DOTTED|24REVERSED"),
   (0x400, "00CYRILLIC CAPITAL LETTER IE WITH GRAVE|30IO|30DJE|30GJE|30UKRAINIAN IE|30DZE"),
   (0x406, "30BYELORUSSIAN-UKRAINIAN I|30YI|30JE|30LJE|30NJE|30TSHE|30KJE|30I WITH GRAVE"),
   (0x40E, "30SHORT U|30DZHE|30A|30BE|30VE|30GHE|30DE|30IE|30ZHE|30ZE|30I|31SHORT|30KA|30EL|30EM"),
   (0x41D, "30EN|30O|30PE|30ER|30ES|30TE|30U|30EF|30HA|30TSE|30CHE|30SHA|30SHCHA|30HARD SIGN"),
   (0x42B, "30YERU|30SOFT SIGN|30E|30YU|30YA|10SMALL LETTER A|30BE|30VE|30GHE|30DE|30IE|30ZHE"),
   (0x437, "30ZE|30I|31SHORT|30KA|30EL|30EM|30EN|30O|30PE|30ER|30ES|30TE|30U|30EF|30HA|30TSE"),
   (0x447, "30CHE|30SHA|30SHCHA|30HARD SIGN|30YERU|30SOFT SIGN|30E|30YU|30YA|30IE WITH GRAVE|30IO"),
   (0x452, "30DJE|30GJE|30UKRAINIAN IE|30DZE|30BYELORUSSIAN-UKRAINIAN I|30YI|30JE|30LJE|30NJE"),
   (0x45B, "30TSHE|30KJE|30I WITH GRAVE|30SHORT U|30DZHE|10CAPITAL LETTER OMEGA|12SMALL"),
   (0x462, "10CAPITAL LETTER YAT|12SMALL|10CAPITAL LETTER IOTIFIED E|13SMALL"),
   (0x466, "10CAPITAL LETTER LITTLE YUS|13SMALL|12CAPITAL LETTER IOTIFIED|14SMALL"),
   (0x46A, "11CAPITAL LETTER BIG|13SMALL|12CAPITAL LETTER IOTIFIED|14SMALL|10CAPITAL LETTER KSI"),
   (0x46F, "12SMALL|10CAPITAL LETTER PSI|12SMALL|10CAPITAL LETTER FITA|12SMALL"),
   (0x474, "10CAPITAL LETTER IZHITSA|12SMALL|10CAPITAL LETTER IZHITSA WITH DOUBLE GRAVE ACCENT"),
   (0x477, "16SMALL|10CAPITAL LETTER UK|12SMALL|10CAPITAL LETTER ROUND OMEGA|13SMALL"),
   (0x47C, "10CAPITAL LETTER OMEGA WITH TITLO|14SMALL|10CAPITAL LETTER OT|12SMALL"),
   (0x480, "10CAPITAL LETTER KOPPA|12SMALL|10THOUSANDS SIGN|00COMBINING CYRILLIC TITLO"),
   (0x484, "20PALATALIZATION|20DASIA PNEUMATA|21PSILI|20POKRYTIE|20HUNDRED THOUSANDS SIGN"),
   (0x489, "21MILLIONS|00CYRILLIC CAPITAL LETTER SHORT I WITH TAIL|15SMALL"),
   (0x48C, "10CAPITAL LETTER SEMISOFT SIGN|13SMALL|10CAPITAL LETTER ER WITH TICK|14SMALL"),
   (0x490, "10CAPITAL LETTER GHE WITH UPTURN|14SMALL|10CAPITAL LETTER GHE WITH STROKE|14SMALL"),
   (0x494, "10CAPITAL LETTER GHE WITH MIDDLE HOOK|15SMALL|10CAPITAL LETTER ZHE WITH DESCENDER"),
   (0x497, "14SMALL|12CAPITAL LETTER ZE|14SMALL|12CAPITAL LETTER KA|14SMALL"),
   (0x49C, "10CAPITAL LETTER KA WITH VERTICAL STROKE|15SMALL|11CAPITAL LETTER KA WITH|14SMALL"),
   (0x4A0, "10CAPITAL LETTER BASHKIR KA|13SMALL|10CAPITAL LETTER EN WITH DESCENDER|14SMALL"),
   (0x4A4, "10CAPITAL LIGATURE EN GHE|13SMALL|10CAPITAL LETTER PE WITH MIDDLE HOOK|15SMALL"),
   (0x4A8, "10CAPITAL LETTER ABKHASIAN HA|13SMALL|10CAPITAL LETTER ES WITH DESCENDER|14SMALL"),
   (0x4AC, "12CAPITAL LETTER TE|14SMALL|10CAPITAL LETTER STRAIGHT U|13SMALL"),
   (0x4B0, "10CAPITAL LETTER STRAIGHT U WITH STROKE|15SMALL|10CAPITAL LETTER HA WITH DESCENDER"),
   (0x4B3, "14SMALL|10CAPITAL LIGATURE TE TSE|13SMALL|10CAPITAL LETTER CHE WITH DESCENDER|14SMALL"),
   (0x4B8, "10CAPITAL LETTER CHE WITH VERTICAL STROKE|15SMALL|10CAPITAL LETTER SHHA|12SMALL"),
   (0x4BC, "10CAPITAL LETTER ABKHASIAN CHE|13SMALL|10CAPITAL LETTER ABKHASIAN CHE WITH DESCENDER"),
   (0x4BF, "15SMALL|10LETTER PALOCHKA|10CAPITAL LETTER ZHE WITH BREVE|14SMALL"),
   (0x4C3, "10CAPITAL LETTER KA WITH HOOK|14SMALL|10CAPITAL LETTER EL WITH TAIL|14SMALL"),
   (0x4C7, "10CAPITAL LETTER EN WITH HOOK|14SMALL|10CAPITAL LETTER EN WITH TAIL|14SMALL"),
   (0x4CB, "10CAPITAL LETTER KHAKASSIAN CHE|13SMALL|10CAPITAL LETTER EM WITH TAIL|14SMALL"),
   (0x4CF, "30PALOCHKA|10CAPITAL LETTER A WITH BREVE|14SMALL|10CAPITAL LETTER A WITH DIAERESIS"),
   (0x4D3, "14SMALL|10CAPITAL LIGATURE A IE|13SMALL|10CAPITAL LETTER IE WITH BREVE|14SMALL"),
   (0x4D8, "10CAPITAL LETTER SCHWA|12SMALL|10CAPITAL LETTER SCHWA WITH DIAERESIS|14SMALL"),
   (0x4DC, "12CAPITAL LETTER ZHE|14SMALL|12CAPITAL LETTER ZE|14SMALL"),
   (0x4E0, "10CAPITAL LETTER ABKHASIAN DZE|13SMALL|10CAPITAL LETTER I WITH MACRON|14SMALL"),
   (0x4E4, "10CAPITAL LETTER I WITH DIAERESIS|14SMALL|12CAPITAL LETTER O|14SMALL"),
   (0x4E8, "10CAPITAL LETTER BARRED O|13SMALL|10CAPITAL LETTER BARRED O WITH DIAERESIS|15SMALL"),
   (0x4EC, "12CAPITAL LETTER E|14SMALL|10CAPITAL LETTER U WITH MACRON|14SMALL"),
   (0x4F0, "10CAPITAL LETTER U WITH DIAERESIS|14SMALL|10CAPITAL LETTER U WITH DOUBLE ACUTE"),
   (0x4F3, "15SMALL|10CAPITAL LETTER CHE WITH DIAERESIS|14SMALL"),
   (0x4F6, "10CAPITAL LETTER GHE WITH DESCENDER|14SMALL|10CAPITAL LETTER YERU WITH DIAERESIS"),
   (0x4F9, "14SMALL|10CAPITAL LETTER GHE WITH STROKE AND HOOK|16SMALL|11CAPITAL LETTER HA WITH"),
   (0x4FD, "14SMALL|10CAPITAL LETTER HA WITH STROKE|14SMALL|10CAPITAL LETTER KOMI DE|13SMALL"),
   (0x502, "10CAPITAL LETTER KOMI DJE|13SMALL|10CAPITAL LETTER KOMI ZJE|13SMALL"),
   (0x506, "10CAPITAL LETTER KOMI DZJE|13SMALL|10CAPITAL LETTER KOMI LJE|13SMALL"),
   (0x50A, "10CAPITAL LETTER KOMI NJE|13SMALL|10CAPITAL LETTER KOMI SJE|13SMALL"),
   (0x50E, "10CAPITAL LETTER KOMI TJE|13SMALL|10CAPITAL LETTER REVERSED ZE|13SMALL"),
   (0x512, "10CAPITAL LETTER EL WITH HOOK|14SMALL|10CAPITAL LETTER LHA|12SMALL"),
   (0x516, "10CAPITAL LETTER RHA|12SMALL|10CAPITAL LETTER YAE|12SMALL|10CAPITAL LETTER QA|12SMALL"),
   (0x51C, "10CAPITAL LETTER WE|12SMALL|10CAPITAL LETTER ALEUT KA|13SMALL"),
   (0x520, "10CAPITAL LETTER EL WITH MIDDLE HOOK|15SMALL|13CAPITAL LETTER EN|15SMALL"),
   (0x524, "10CAPITAL LETTER PE WITH DESCENDER|14SMALL|12CAPITAL LETTER SHHA|14SMALL"),
   (0x528, "10CAPITAL LETTER EN WITH LEFT HOOK|15SMALL|10CAPITAL LETTER DZZHE|12SMALL"),
   (0x52C, "10CAPITAL LETTER DCHE|12SMALL|10CAPITAL LETTER EL WITH DESCENDER|14SMALL"),
   (0x531, "00ARMENIAN CAPITAL LETTER AYB|30BEN|30GIM|30DA|30ECH|30ZA|30EH|30ET|30TO|30ZHE|30INI"),
   (0x53C, "30LIWN|30XEH|30CA|30KEN|30HO|30JA|30GHAD|30CHEH|30MEN|30YI|30NOW|30SHA|30VO|30CHA"),
   (0x54A, "30PEH|30JHEH|30RA|30SEH|30VEW|30TIWN|30REH|30CO|30YIWN|30PIWR|30KEH|30OH|30FEH"),
   (0x559, "10MODIFIER LETTER LEFT HALF RING|10APOSTROPHE|10EMPHASIS MARK|11EXCLAMATION|10COMMA"),
   (0x55E, "10QUESTION MARK|11ABBREVIATION|10SMALL LETTER TURNED AYB|31|30BEN|30GIM|30DA|30ECH"),
   (0x566, "30ZA|30EH|30ET|30TO|30ZHE|30INI|30LIWN|30XEH|30CA|30KEN|30HO|30JA|30GHAD|30CHEH|30MEN"),
   (0x575, "30YI|30NOW|30SHA|30VO|30CHA|30PEH|30JHEH|30RA|30SEH|30VEW|30TIWN|30REH|30CO|30YIWN"),
   (0x583, "30PIWR|30KEH|30OH|30FEH|20LIGATURE ECH YIWN|20LETTER YI WITH STROKE|10FULL STOP"),
   (0x58A, "10HYPHEN"),
   (0x58D, "00RIGHT-FACING ARMENIAN ETERNITY SIGN|03LEFT-FACING|01ARMENIAN DRAM"),
   (0x591, "00HEBREW ACCENT ETNAHTA|20SEGOL|20SHALSHELET|20ZAQEF QATAN|30GADOL|20TIPEHA|20REVIA"),
   (0x598, "20ZARQA|20PASHTA|20YETIV|20TEVIR|20GERESH|30MUQDAM|20GERSHAYIM|20QARNEY PARA"),
   (0x5A0, "20TELISHA GEDOLA|20PAZER|20ATNAH HAFUKH|20MUNAH|20MAHAPAKH|20MERKHA|30KEFULA|20DARGA"),
   (0x5A8, "20QADMA|20TELISHA QETANA|20YERAH BEN YOMO|20OLE|20ILUY|20DEHI|20ZINOR"),
   (0x5AF, "10MARK MASORA CIRCLE|10POINT SHEVA|20HATAF SEGOL|30PATAH|30QAMATS|20HIRIQ|20TSERE"),
   (0x5B6, "20SEGOL|20PATAH|20QAMATS|20HOLAM|30HASER FOR VAV|20QUBUTS|20DAGESH OR MAPIQ|20METEG"),
   (0x5BE, "10PUNCTUATION MAQAF|10POINT RAFE|10PUNCTUATION PASEQ|10POINT SHIN DOT|21SIN"),
   (0x5C3, "10PUNCTUATION SOF PASUQ|10MARK UPPER DOT|21LOWER|10PUNCTUATION NUN HAFUKHA"),
   (0x5C7, "10POINT QAMATS QATAN"),
   (0x5D0, "10LETTER ALEF|20BET|20GIMEL|20DALET|20HE|20VAV|20ZAYIN|20HET|20TET|20YOD|20FINAL KAF"),
   (0x5DB, "21|20LAMED|20FINAL MEM|21|20FINAL NUN|21|20SAMEKH|20AYIN|20FINAL PE|21|20FINAL TSADI"),
   (0x5E6, "21|20QOF|20RESH|20SHIN|20TAV"),
   (0x5EF, "10YOD TRIANGLE|10LIGATURE YIDDISH DOUBLE VAV|30VAV YOD|31DOUBLE|10PUNCTUATION GERESH"),
   (0x5F4, "20GERSHAYIM"),
   (0x600, "00ARABIC NUMBER SIGN|10SIGN SANAH|10FOOTNOTE MARKER|10SIGN SAFHA|20SAMVAT"),
   (0x605, "10NUMBER MARK ABOVE|00ARABIC-INDIC CUBE ROOT|11FOURTH|00ARABIC RAY"),
   (0x609, "00ARABIC-INDIC PER MILLE SIGN|21TEN THOUSAND|01AFGHANI|00ARABIC COMMA"),
   (0x60D, "10DATE SEPARATOR|10POETIC VERSE SIGN|10SIGN MISRA|20SALLALLAHOU ALAYHE WASSALLAM"),
   (0x611, "20ALAYHE ASSALLAM|20RAHMATULLAH ALAYHE|20RADI ALLAHOU ANHU|20TAKHALLUS"),
   (0x615, "10SMALL HIGH TAH|30LIGATURE ALEF WITH LAM WITH YEH|30ZAIN|20FATHA|20DAMMA|20KASRA"),
   (0x61B, "10SEMICOLON|10LETTER MARK|11END OF TEXT|11TRIPLE DOT PUNCTUATION|11QUESTION"),
   (0x620, "10LETTER KASHMIRI YEH|20HAMZA|20ALEF WITH MADDA ABOVE|41HAMZA|23WAW"),
   (0x625, "20ALEF WITH HAMZA BELOW|20YEH WITH HAMZA ABOVE|20ALEF|20BEH|20TEH MARBUTA|30|20THEH"),
   (0x62C, "20JEEM|20HAH|20KHAH|20DAL|20THAL|20REH|20ZAIN|20SEEN|20SHEEN|20SAD|20DAD|20TAH|20ZAH"),
   (0x639, "20AIN|20GHAIN|20KEHEH WITH TWO DOTS ABOVE|40THREE DOTS BELOW"),
   (0x63D, "20FARSI YEH WITH INVERTED V|50TWO DOTS ABOVE|52THREE|10TATWEEL|10LETTER FEH|20QAF"),
   (0x643, "20KAF|20LAM|20MEEM|20NOON|20HEH|20WAW|20ALEF MAKSURA|20YEH|10FATHATAN|10DAMMATAN"),
   (0x64D, "10KASRATAN|10FATHA|10DAMMA|10KASRA|10SHADDA|10SUKUN|10MADDAH ABOVE|11HAMZA|20BELOW"),
   (0x656, "10SUBSCRIPT ALEF|10INVERTED DAMMA|10MARK NOON GHUNNA|10ZWARAKAY"),
   (0x65A, "10VOWEL SIGN SMALL V ABOVE|33INVERTED|30DOT BELOW|10REVERSED DAMMA"),
   (0x65E, "10FATHA WITH TWO DOTS|10WAVY HAMZA BELOW|00ARABIC-INDIC DIGIT ZERO|20ONE|20TWO"),
   (0x663, "20THREE|20FOUR|20FIVE|20SIX|20SEVEN|20EIGHT|20NINE|00ARABIC PERCENT SIGN"),
   (0x66B, "10DECIMAL SEPARATOR|11THOUSANDS|10FIVE POINTED STAR|10LETTER DOTLESS BEH|30QAF"),
   (0x670, "20SUPERSCRIPT ALEF|20ALEF WASLA|30WITH WAVY HAMZA ABOVE|60BELOW|20HIGH HAMZA|40ALEF"),
   (0x676, "40WAW|20U WITH HAMZA ABOVE|20HIGH HAMZA YEH|20TTEH|20TTEHEH|20BEEH|20TEH WITH RING"),
   (0x67D, "40THREE DOTS ABOVE DOWNWARDS|20PEH|20TEHEH|20BEHEH|20HAH WITH HAMZA ABOVE"),
   (0x682, "41TWO DOTS VERTICAL|20NYEH|20DYEH|20HAH WITH THREE DOTS ABOVE|20TCHEH|20TCHEHEH"),
   (0x688, "20DDAL|20DAL WITH RING|40DOT BELOW|60AND SMALL TAH|20DAHAL|20DDAHAL|20DUL"),
   (0x68F, "20DAL WITH THREE DOTS ABOVE DOWNWARDS|40FOUR DOTS ABOVE|20RREH|20REH WITH SMALL V"),
   (0x693, "40RING|40DOT BELOW|41SMALL V|40DOT BELOW AND DOT ABOVE|41TWO DOTS|20JEH"),
   (0x699, "20REH WITH FOUR DOTS ABOVE|21SEEN WITH DOT BELOW AND DOT|40THREE DOTS BELOW"),
   (0x69C, "70AND THREE DOTS ABOVE|20SAD WITH TWO DOTS BELOW|40THREE DOTS ABOVE|24TAH|24AIN"),
   (0x6A1, "20DOTLESS FEH|20FEH WITH DOT MOVED BELOW|51|20VEH|20FEH WITH THREE DOTS BELOW|20PEHEH"),
   (0x6A7, "20QAF WITH DOT ABOVE|41THREE DOTS|20KEHEH|20SWASH KAF|20KAF WITH RING|40DOT ABOVE"),
   (0x6AD, "20NG|20KAF WITH THREE DOTS BELOW|20GAF|30WITH RING|20NGOEH|20GAF WITH TWO DOTS BELOW"),
   (0x6B3, "20GUEH|20GAF WITH THREE DOTS ABOVE|20LAM WITH SMALL V|40DOT ABOVE|41THREE DOTS"),
   (0x6B8, "60BELOW|21NOON WITH DOT|30GHUNNA|20RNOON|20NOON WITH RING|40THREE DOTS ABOVE"),
   (0x6BE, "20HEH DOACHASHMEE|20TCHEH WITH DOT ABOVE|21HEH WITH YEH|30GOAL|40WITH HAMZA ABOVE"),
   (0x6C3, "20TEH MARBUTA GOAL|20WAW WITH RING|20KIRGHIZ OE|21|20U|20YU|21KIRGHIZ"),
   (0x6CA, "20WAW WITH TWO DOTS ABOVE|20VE|20FARSI YEH|20YEH WITH TAIL|40SMALL V"),
   (0x6CF, "20WAW WITH DOT ABOVE|20E|20YEH WITH THREE DOTS BELOW|30BARREE|40WITH HAMZA ABOVE"),
   (0x6D4, "10FULL STOP|10LETTER AE|10SMALL HIGH LIGATURE SAD WITH LAM WITH ALEF MAKSURA|45QAF"),
   (0x6D8, "30MEEM INITIAL FORM|30LAM ALEF|30JEEM|30THREE DOTS|30SEEN|10END OF AYAH"),
   (0x6DE, "10START OF RUB EL HIZB|10SMALL HIGH ROUNDED ZERO|31UPRIGHT RECTANGULAR"),
   (0x6E1, "30DOTLESS HEAD OF KHAH|30MEEM ISOLATED FORM|20LOW SEEN|20HIGH MADDA|20WAW|20YEH"),
   (0x6E7, "21HIGH|30NOON|10PLACE OF SAJDAH|10EMPTY CENTRE LOW STOP|31HIGH"),
   (0x6EC, "10ROUNDED HIGH STOP WITH FILLED CENTRE|10SMALL LOW MEEM|10LETTER DAL WITH INVERTED V"),
   (0x6EF, "23REH|00EXTENDED ARABIC-INDIC DIGIT ZERO|30ONE|30TWO|30THREE|30FOUR|30FIVE|30SIX"),
   (0x6F7, "30SEVEN|30EIGHT|30NINE|00ARABIC LETTER SHEEN WITH DOT BELOW|23DAD|23GHAIN"),
   (0x6FD, "10SIGN SINDHI AMPERSAND|30POSTPOSITION MEN|10LETTER HEH WITH INVERTED V"),
   (0x900, "00DEVANAGARI SIGN INVERTED CANDRABINDU|21|20ANUSVARA|20VISARGA|10LETTER SHORT A|21"),
   (0x906, "20AA|20I|20II|20U|20UU|20VOCALIC R|30L|20CANDRA E|21SHORT|21|20AI|20CANDRA O|21SHORT"),
   (0x913, "21|20AU|20KA|20KHA|20GA|20GHA|20NGA|20CA|20CHA|20JA|20JHA|20NYA|20TTA|20TTHA|20DDA"),
   (0x922, "20DDHA|20NNA|20TA|20THA|20DA|20DHA|20NA|20NNNA|20PA|20PHA|20BA|20BHA|20MA|20YA|20RA"),
   (0x931, "20RRA|20LA|20LLA|20LLLA|20VA|20SHA|20SSA|20SA|20HA|10VOWEL SIGN OE|30OOE|10SIGN NUKTA"),
   (0x93D, "20AVAGRAHA|10VOWEL SIGN AA|30I|30II|30U|30UU|30VOCALIC R|40RR|30CANDRA E|31SHORT|31"),
   (0x948, "30AI|30CANDRA O|31SHORT|31|30AU|10SIGN VIRAMA|10VOWEL SIGN PRISHTHAMATRA E|30AW|10OM"),
   (0x951, "10STRESS SIGN UDATTA|30ANUDATTA|10GRAVE ACCENT|11ACUTE|10VOWEL SIGN CANDRA LONG E"),
   (0x956, "30UE|30UUE|10LETTER QA|20KHHA|20GHHA|20ZA|20DDDHA|20RHA|20FA|20YYA|20VOCALIC RR|30LL"),
   (0x962, "10VOWEL SIGN VOCALIC L|40LL|10DANDA|11DOUBLE|10DIGIT ZERO|20ONE|20TWO|20THREE|20FOUR"),
   (0x96B, "20FIVE|20SIX|20SEVEN|20EIGHT|20NINE|10ABBREVIATION SIGN|10SIGN HIGH SPACING DOT"),
   (0x972, "10LETTER CANDRA A|20OE|20OOE|20AW|20UE|20UUE|20MARWARI DDA|20ZHA|20HEAVY YA|20GGA"),
   (0x97C, "20JJA|20GLOTTAL STOP|20DDDA|20BBA"),
   (0x1E00, "00LATIN CAPITAL LETTER A WITH RING BELOW|15SMALL|10CAPITAL LETTER B WITH DOT ABOVE"),
   (0x1E03, "15SMALL|10CAPITAL LETTER B WITH DOT BELOW|15SMALL|11CAPITAL LETTER B WITH LINE"),
   (0x1E07, "15SMALL|10CAPITAL LETTER C WITH CEDILLA AND ACUTE|16SMALL"),
   (0x1E0A, "10CAPITAL LETTER D WITH DOT ABOVE|15SMALL|10CAPITAL LETTER D WITH DOT BELOW|15SMALL"),
   (0x1E0E, "11CAPITAL LETTER D WITH LINE|15SMALL|10CAPITAL LETTER D WITH CEDILLA|14SMALL"),
   (0x1E12, "10CAPITAL LETTER D WITH CIRCUMFLEX BELOW|15SMALL"),
   (0x1E14, "10CAPITAL LETTER E WITH MACRON AND GRAVE|16SMALL"),
   (0x1E16, "10CAPITAL LETTER E WITH MACRON AND ACUTE|16SMALL"),
   (0x1E18, "10CAPITAL LETTER E WITH CIRCUMFLEX BELOW|15SMALL|11CAPITAL LETTER E WITH TILDE"),
   (0x1E1B, "15SMALL|10CAPITAL LETTER E WITH CEDILLA AND BREVE|16SMALL"),
   (0x1E1E, "10CAPITAL LETTER F WITH DOT ABOVE|15SMALL|10CAPITAL LETTER G WITH MACRON|14SMALL"),
   (0x1E22, "10CAPITAL LETTER H WITH DOT ABOVE|15SMALL|10CAPITAL LETTER H WITH DOT BELOW|15SMALL"),
   (0x1E26, "10CAPITAL LETTER H WITH DIAERESIS|14SMALL|10CAPITAL LETTER H WITH CEDILLA|14SMALL"),
   (0x1E2A, "10CAPITAL LETTER H WITH BREVE BELOW|15SMALL|11CAPITAL LETTER I WITH TILDE|15SMALL"),
   (0x1E2E, "10CAPITAL LETTER I WITH DIAERESIS AND ACUTE|16SMALL|11CAPITAL LETTER K WITH|14SMALL"),
   (0x1E32, "10CAPITAL LETTER K WITH DOT BELOW|15SMALL|11CAPITAL LETTER K WITH LINE|15SMALL"),
   (0x1E36, "11CAPITAL LETTER L WITH DOT|15SMALL|10CAPITAL LETTER L WITH DOT BELOW AND MACRON"),
   (0x1E39, "17SMALL|10CAPITAL LETTER L WITH LINE BELOW|15SMALL"),
   (0x1E3C, "11CAPITAL LETTER L WITH CIRCUMFLEX|15SMALL|10CAPITAL LETTER M WITH ACUTE|14SMALL"),
   (0x1E40, "10CAPITAL LETTER M WITH DOT ABOVE|15SMALL|10CAPITAL LETTER M WITH DOT BELOW|15SMALL"),
   (0x1E44, "10CAPITAL LETTER N WITH DOT ABOVE|15SMALL|10CAPITAL LETTER N WITH DOT BELOW|15SMALL"),
   (0x1E48, "11CAPITAL LETTER N WITH LINE|15SMALL|11CAPITAL LETTER N WITH CIRCUMFLEX|15SMALL"),
   (0x1E4C, "10CAPITAL LETTER O WITH TILDE AND ACUTE|16SMALL"),
   (0x1E4E, "10CAPITAL LETTER O WITH TILDE AND DIAERESIS|16SMALL"),
   (0x1E50, "10CAPITAL LETTER O WITH MACRON AND GRAVE|16SMALL"),
   (0x1E52, "10CAPITAL LETTER O WITH MACRON AND ACUTE|16SMALL|11CAPITAL LETTER P WITH|14SMALL"),
   (0x1E56, "10CAPITAL LETTER P WITH DOT ABOVE|15SMALL|13CAPITAL LETTER R|15SMALL"),
   (0x1E5A, "10CAPITAL LETTER R WITH DOT BELOW|15SMALL"),
   (0x1E5C, "10CAPITAL LETTER R WITH DOT BELOW AND MACRON|17SMALL"),
   (0x1E5E, "10CAPITAL LETTER R WITH LINE BELOW|15SMALL|10CAPITAL LETTER S WITH DOT ABOVE|15SMALL"),
   (0x1E62, "10CAPITAL LETTER S WITH DOT BELOW|15SMALL"),
   (0x1E64, "10CAPITAL LETTER S WITH ACUTE AND DOT ABOVE|17SMALL|13CAPITAL LETTER S WITH CARON"),
   (0x1E67, "17SMALL|13CAPITAL LETTER S WITH DOT BELOW|18SMALL|12CAPITAL LETTER T WITH|15SMALL"),
   (0x1E6C, "10CAPITAL LETTER T WITH DOT BELOW|15SMALL|11CAPITAL LETTER T WITH LINE|15SMALL"),
   (0x1E70, "11CAPITAL LETTER T WITH CIRCUMFLEX|15SMALL|11CAPITAL LETTER U WITH DIAERESIS|15SMALL"),
   (0x1E74, "11CAPITAL LETTER U WITH TILDE|15SMALL|11CAPITAL LETTER U WITH CIRCUMFLEX|15SMALL"),
   (0x1E78, "10CAPITAL LETTER U WITH TILDE AND ACUTE|16SMALL"),
   (0x1E7A, "10CAPITAL LETTER U WITH MACRON AND DIAERESIS|16SMALL|10CAPITAL LETTER V WITH TILDE"),
   (0x1E7D, "14SMALL|10CAPITAL LETTER V WITH DOT BELOW|15SMALL|10CAPITAL LETTER W WITH GRAVE"),
   (0x1E81, "14SMALL|10CAPITAL LETTER W WITH ACUTE|14SMALL|10CAPITAL LETTER W WITH DIAERESIS"),
   (0x1E85, "14SMALL|10CAPITAL LETTER W WITH DOT ABOVE|15SMALL|10CAPITAL LETTER W WITH DOT BELOW"),
   (0x1E89, "15SMALL|10CAPITAL LETTER X WITH DOT ABOVE|15SMALL|10CAPITAL LETTER X WITH DIAERESIS"),
   (0x1E8D, "14SMALL|10CAPITAL LETTER Y WITH DOT ABOVE|15SMALL|10CAPITAL LETTER Z WITH CIRCUMFLEX"),
   (0x1E91, "14SMALL|10CAPITAL LETTER Z WITH DOT BELOW|15SMALL|11CAPITAL LETTER Z WITH LINE"),
   (0x1E95, "15SMALL|33H|30T WITH DIAERESIS|30W WITH RING ABOVE|33Y|30A WITH RIGHT HALF RING"),
   (0x1E9B, "30LONG S WITH DOT ABOVE|60DIAGONAL STROKE|61HIGH|10CAPITAL LETTER SHARP S"),
   (0x1E9F, "10SMALL LETTER DELTA|10CAPITAL LETTER A WITH DOT BELOW|15SMALL"),
   (0x1EA2, "10CAPITAL LETTER A WITH HOOK ABOVE|15SMALL"),
   (0x1EA4, "10CAPITAL LETTER A WITH CIRCUMFLEX AND ACUTE|16SMALL"),
   (0x1EA6, "10CAPITAL LETTER A WITH CIRCUMFLEX AND GRAVE|16SMALL"),
   (0x1EA8, "10CAPITAL LETTER A WITH CIRCUMFLEX AND HOOK ABOVE|17SMALL"),
   (0x1EAA, "10CAPITAL LETTER A WITH CIRCUMFLEX AND TILDE|16SMALL"),
   (0x1EAC, "10CAPITAL LETTER A WITH CIRCUMFLEX AND DOT BELOW|17SMALL"),
   (0x1EAE, "10CAPITAL LETTER A WITH BREVE AND ACUTE|16SMALL"),
   (0x1EB0, "10CAPITAL LETTER A WITH BREVE AND GRAVE|16SMALL"),
   (0x1EB2, "10CAPITAL LETTER A WITH BREVE AND HOOK ABOVE|17SMALL"),
   (0x1EB4, "10CAPITAL LETTER A WITH BREVE AND TILDE|16SMALL"),
   (0x1EB6, "10CAPITAL LETTER A WITH BREVE AND DOT BELOW|17SMALL|12CAPITAL LETTER E WITH|15SMALL"),
   (0x1EBA, "10CAPITAL LETTER E WITH HOOK ABOVE|15SMALL|10CAPITAL LETTER E WITH TILDE|14SMALL"),
   (0x1EBE, "10CAPITAL LETTER E WITH CIRCUMFLEX AND ACUTE|16SMALL"),
   (0x1EC0, "10CAPITAL LETTER E WITH CIRCUMFLEX AND GRAVE|16SMALL"),
   (0x1EC2, "10CAPITAL LETTER E WITH CIRCUMFLEX AND HOOK ABOVE|17SMALL"),
   (0x1EC4, "10CAPITAL LETTER E WITH CIRCUMFLEX AND TILDE|16SMALL"),
   (0x1EC6, "10CAPITAL LETTER E WITH CIRCUMFLEX AND DOT BELOW|17SMALL"),
   (0x1EC8, "10CAPITAL LETTER I WITH HOOK ABOVE|15SMALL|10CAPITAL LETTER I WITH DOT BELOW|15SMALL"),
   (0x1ECC, "13CAPITAL LETTER O|15SMALL|10CAPITAL LETTER O WITH HOOK ABOVE|15SMALL"),
   (0x1ED0, "10CAPITAL LETTER O WITH CIRCUMFLEX AND ACUTE|16SMALL"),
   (0x1ED2, "10CAPITAL LETTER O WITH CIRCUMFLEX AND GRAVE|16SMALL"),
   (0x1ED4, "10CAPITAL LETTER O WITH CIRCUMFLEX AND HOOK ABOVE|17SMALL"),
   (0x1ED6, "10CAPITAL LETTER O WITH CIRCUMFLEX AND TILDE|16SMALL"),
   (0x1ED8, "10CAPITAL LETTER O WITH CIRCUMFLEX AND DOT BELOW|17SMALL"),
   (0x1EDA, "10CAPITAL LETTER O WITH HORN AND ACUTE|16SMALL"),
   (0x1EDC, "10CAPITAL LETTER O WITH HORN AND GRAVE|16SMALL"),
   (0x1EDE, "10CAPITAL LETTER O WITH HORN AND HOOK ABOVE|17SMALL"),
   (0x1EE0, "10CAPITAL LETTER O WITH HORN AND TILDE|16SMALL"),
   (0x1EE2, "10CAPITAL LETTER O WITH HORN AND DOT BELOW|17SMALL|12CAPITAL LETTER U WITH|15SMALL"),
   (0x1EE6, "10CAPITAL LETTER U WITH HOOK ABOVE|15SMALL|10CAPITAL LETTER U WITH HORN AND ACUTE"),
   (0x1EE9, "16SMALL|10CAPITAL LETTER U WITH HORN AND GRAVE|16SMALL"),
   (0x1EEC, "10CAPITAL LETTER U WITH HORN AND HOOK ABOVE|17SMALL"),
   (0x1EEE, "10CAPITAL LETTER U WITH HORN AND TILDE|16SMALL"),
   (0x1EF0, "10CAPITAL LETTER U WITH HORN AND DOT BELOW|17SMALL|10CAPITAL LETTER Y WITH GRAVE"),
   (0x1EF3, "14SMALL|10CAPITAL LETTER Y WITH DOT BELOW|15SMALL|10CAPITAL LETTER Y WITH HOOK ABOVE"),
   (0x1EF7, "15SMALL|10CAPITAL LETTER Y WITH TILDE|14SMALL|10CAPITAL LETTER MIDDLE-WELSH LL"),
   (0x1EFB, "13SMALL|10CAPITAL LETTER MIDDLE-WELSH V|13SMALL|10CAPITAL LETTER Y WITH LOOP|14SMALL"),
   (0x1F00, "00GREEK SMALL LETTER ALPHA WITH PSILI|50DASIA|50PSILI AND VARIA|52DASIA"),
   (0x1F04, "50PSILI AND OXIA|52DASIA|50PSILI AND PERISPOMENI|52DASIA"),
   (0x1F08, "10CAPITAL LETTER ALPHA WITH PSILI|50DASIA|50PSILI AND VARIA|52DASIA|50PSILI AND OXIA"),
   (0x1F0D, "52DASIA|50PSILI AND PERISPOMENI|52DASIA|10SMALL LETTER EPSILON WITH PSILI|50DASIA"),
   (0x1F12, "50PSILI AND VARIA|52DASIA|50PSILI AND OXIA|52DASIA"),
   (0x1F18, "10CAPITAL LETTER EPSILON WITH PSILI|50DASIA|50PSILI AND VARIA|52DASIA"),
   (0x1F1C, "50PSILI AND OXIA|52DASIA"),
   (0x1F20, "10SMALL LETTER ETA WITH PSILI|50DASIA|50PSILI AND VARIA|52DASIA|50PSILI AND OXIA"),
   (0x1F25, "52DASIA|50PSILI AND PERISPOMENI|52DASIA|10CAPITAL LETTER ETA WITH PSILI|50DASIA"),
   (0x1F2A, "50PSILI AND VARIA|52DASIA|50PSILI AND OXIA|52DASIA|50PSILI AND PERISPOMENI|52DASIA"),
   (0x1F30, "10SMALL LETTER IOTA WITH PSILI|50DASIA|50PSILI AND VARIA|52DASIA|50PSILI AND OXIA"),
   (0x1F35, "52DASIA|50PSILI AND PERISPOMENI|52DASIA|10CAPITAL LETTER IOTA WITH PSILI|50DASIA"),
   (0x1F3A, "50PSILI AND VARIA|52DASIA|50PSILI AND OXIA|52DASIA|50PSILI AND PERISPOMENI|52DASIA"),
   (0x1F40, "10SMALL LETTER OMICRON WITH PSILI|50DASIA|50PSILI AND VARIA|52DASIA|50PSILI AND OXIA"),
   (0x1F45, "52DASIA"),
   (0x1F48, "10CAPITAL LETTER OMICRON WITH PSILI|50DASIA|50PSILI AND VARIA|52DASIA"),
   (0x1F4C, "50PSILI AND OXIA|52DASIA"),
   (0x1F50, "10SMALL LETTER UPSILON WITH PSILI|50DASIA|50PSILI AND VARIA|52DASIA|50PSILI AND OXIA"),
   (0x1F55, "52DASIA|50PSILI AND PERISPOMENI|52DASIA"),
   (0x1F59, "10CAPITAL LETTER UPSILON WITH DASIA"),
   (0x1F5B, "60AND VARIA"),
   (0x1F5D, "70OXIA"),
   (0x1F5F, "70PERISPOMENI|10SMALL LETTER OMEGA WITH PSILI|50DASIA|50PSILI AND VARIA|52DASIA"),
   (0x1F64, "50PSILI AND OXIA|52DASIA|50PSILI AND PERISPOMENI|52DASIA"),
   (0x1F68, "10CAPITAL LETTER OMEGA WITH PSILI|50DASIA|50PSILI AND VARIA|52DASIA|50PSILI AND OXIA"),
   (0x1F6D, "52DASIA|50PSILI AND PERISPOMENI|52DASIA|10SMALL LETTER ALPHA WITH VARIA|50OXIA"),
   (0x1F72, "30EPSILON WITH VARIA|50OXIA|30ETA WITH VARIA|50OXIA|30IOTA WITH VARIA|50OXIA"),
   (0x1F78, "30OMICRON WITH VARIA|50OXIA|30UPSILON WITH VARIA|50OXIA|30OMEGA WITH VARIA|50OXIA"),
   (0x1F80, "30ALPHA WITH PSILI AND YPOGEGRAMMENI|52DASIA|52PSILI AND VARIA|54DASIA"),
   (0x1F84, "52PSILI AND OXIA|54DASIA|52PSILI AND PERISPOMENI|54DASIA"),
   (0x1F88, "10CAPITAL LETTER ALPHA WITH PSILI AND PROSGEGRAMMENI|52DASIA|52PSILI AND VARIA"),
   (0x1F8B, "54DASIA|52PSILI AND OXIA|54DASIA|52PSILI AND PERISPOMENI|54DASIA"),
   (0x1F90, "10SMALL LETTER ETA WITH PSILI AND YPOGEGRAMMENI|52DASIA|52PSILI AND VARIA|54DASIA"),
   (0x1F94, "52PSILI AND OXIA|54DASIA|52PSILI AND PERISPOMENI|54DASIA"),
   (0x1F98, "10CAPITAL LETTER ETA WITH PSILI AND PROSGEGRAMMENI|52DASIA|52PSILI AND VARIA|54DASIA"),
   (0x1F9C, "52PSILI AND OXIA|54DASIA|52PSILI AND PERISPOMENI|54DASIA"),
   (0x1FA0, "10SMALL LETTER OMEGA WITH PSILI AND YPOGEGRAMMENI|52DASIA|52PSILI AND VARIA|54DASIA"),
   (0x1FA4, "52PSILI AND OXIA|54DASIA|52PSILI AND PERISPOMENI|54DASIA"),
   (0x1FA8, "10CAPITAL LETTER OMEGA WITH PSILI AND PROSGEGRAMMENI|52DASIA|52PSILI AND VARIA"),
   (0x1FAB, "54DASIA|52PSILI AND OXIA|54DASIA|52PSILI AND PERISPOMENI|54DASIA"),
   (0x1FB0, "10SMALL LETTER ALPHA WITH VRACHY|50MACRON|50VARIA AND YPOGEGRAMMENI|51|51OXIA AND"),
   (0x1FB6, "50PERISPOMENI|60AND YPOGEGRAMMENI|10CAPITAL LETTER ALPHA WITH VRACHY|50MACRON"),
   (0x1FBA, "50VARIA|50OXIA|50PROSGEGRAMMENI|10KORONIS|10PROSGEGRAMMENI|10PSILI|10PERISPOMENI"),
   (0x1FC1, "11DIALYTIKA AND|10SMALL LETTER ETA WITH VARIA AND YPOGEGRAMMENI|51|51OXIA AND"),
   (0x1FC6, "50PERISPOMENI|60AND YPOGEGRAMMENI|10CAPITAL LETTER EPSILON WITH VARIA|50OXIA"),
   (0x1FCA, "30ETA WITH VARIA|50OXIA|50PROSGEGRAMMENI|10PSILI AND VARIA|30OXIA|30PERISPOMENI"),
   (0x1FD0, "10SMALL LETTER IOTA WITH VRACHY|50MACRON|50DIALYTIKA AND VARIA|70OXIA"),
   (0x1FD6, "50PERISPOMENI|51DIALYTIKA AND|10CAPITAL LETTER IOTA WITH VRACHY|50MACRON|50VARIA"),
   (0x1FDB, "50OXIA"),
   (0x1FDD, "10DASIA AND VARIA|30OXIA|30PERISPOMENI|10SMALL LETTER UPSILON WITH VRACHY|50MACRON"),
   (0x1FE2, "50DIALYTIKA AND VARIA|70OXIA|30RHO WITH PSILI|50DASIA|30UPSILON WITH PERISPOMENI"),
   (0x1FE7, "51DIALYTIKA AND|10CAPITAL LETTER UPSILON WITH VRACHY|50MACRON|50VARIA|50OXIA"),
   (0x1FEC, "30RHO WITH DASIA|10DIALYTIKA AND VARIA|30OXIA|10VARIA"),
   (0x1FF2, "10SMALL LETTER OMEGA WITH VARIA AND YPOGEGRAMMENI|51|51OXIA AND"),
   (0x1FF6, "50PERISPOMENI|60AND YPOGEGRAMMENI|10CAPITAL LETTER OMICRON WITH VARIA|50OXIA"),
   (0x1FFA, "30OMEGA WITH VARIA|50OXIA|50PROSGEGRAMMENI|10OXIA|10DASIA"),
   (0x2000, "00EN QUAD|01EM|00EN SPACE|01EM|01THREE-PER-EM|01FOUR-PER-EM|01SIX-PER-EM|01FIGURE"),
   (0x2008, "01PUNCTUATION|01THIN|01HAIR|01ZERO WIDTH|20NON-JOINER|20JOINER|00LEFT-TO-RIGHT MARK"),
   (0x200F, "01RIGHT-TO-LEFT|00HYPHEN|01NON-BREAKING|00FIGURE DASH|01EN|01EM|00HORIZONTAL BAR"),
   (0x2016, "00DOUBLE VERTICAL LINE|11LOW|00LEFT SINGLE QUOTATION MARK|03RIGHT|02SINGLE LOW-9"),
   (0x201B, "12HIGH-REVERSED-9|02LEFT DOUBLE|03RIGHT|02DOUBLE LOW-9|12HIGH-REVERSED-9|00DAGGER"),
   (0x2021, "01DOUBLE|00BULLET|01TRIANGULAR|00ONE DOT LEADER|02TWO|00HORIZONTAL ELLIPSIS"),
   (0x2027, "00HYPHENATION POINT|00LINE SEPARATOR|01PARAGRAPH|00LEFT-TO-RIGHT EMBEDDING"),
   (0x202B, "01RIGHT-TO-LEFT|00POP DIRECTIONAL FORMATTING|00LEFT-TO-RIGHT OVERRIDE"),
   (0x202E, "01RIGHT-TO-LEFT|00NARROW NO-BREAK SPACE|00PER MILLE SIGN|11TEN THOUSAND|00PRIME"),
   (0x2033, "01DOUBLE|01TRIPLE|01REVERSED|11DOUBLE|11TRIPLE|00CARET"),
   (0x2039, "00SINGLE LEFT-POINTING ANGLE QUOTATION MARK|13RIGHT-POINTING|01REFERENCE"),
   (0x203C, "01DOUBLE EXCLAMATION|00INTERROBANG|00OVERLINE|00UNDERTIE|00CHARACTER TIE"),
   (0x2041, "00CARET INSERTION POINT|00ASTERISM|00HYPHEN BULLET|00FRACTION SLASH"),
   (0x2045, "00LEFT SQUARE BRACKET WITH QUILL|04RIGHT|00DOUBLE QUESTION MARK"),
   (0x2048, "01QUESTION EXCLAMATION|01EXCLAMATION QUESTION|00TIRONIAN SIGN ET"),
   (0x204B, "00REVERSED PILCROW SIGN|00BLACK LEFTWARDS BULLET|11RIGHTWARDS|00LOW ASTERISK"),
   (0x204F, "00REVERSED SEMICOLON|00CLOSE UP|00TWO ASTERISKS ALIGNED VERTICALLY"),
   (0x2052, "00COMMERCIAL MINUS SIGN|00SWUNG DASH|00INVERTED UNDERTIE|00FLOWER PUNCTUATION MARK"),
   (0x2056, "00THREE DOT PUNCTUATION|00QUADRUPLE PRIME|00FOUR DOT PUNCTUATION|02FIVE|02TWO"),
   (0x205B, "00FOUR DOT MARK|00DOTTED CROSS|00TRICOLON|00VERTICAL FOUR DOTS"),
   (0x205F, "00MEDIUM MATHEMATICAL SPACE|00WORD JOINER|00FUNCTION APPLICATION|00INVISIBLE TIMES"),
   (0x2063, "10SEPARATOR|10PLUS"),
   (0x2066, "00LEFT-TO-RIGHT ISOLATE|01RIGHT-TO-LEFT|01FIRST STRONG|01POP DIRECTIONAL"),
   (0x206A, "00INHIBIT SYMMETRIC SWAPPING|02ACTIVATE|00INHIBIT ARABIC FORM SHAPING|03ACTIVATE"),
   (0x206E, "00NATIONAL DIGIT SHAPES|02NOMINAL|00SUPERSCRIPT ZERO|10LATIN SMALL LETTER I"),
   (0x2074, "10FOUR|10FIVE|10SIX|10SEVEN|10EIGHT|10NINE|10PLUS SIGN|10MINUS|10EQUALS SIGN"),
   (0x207D, "10LEFT PARENTHESIS|11RIGHT|10LATIN SMALL LETTER N|00SUBSCRIPT ZERO|10ONE|10TWO"),
   (0x2083, "10THREE|10FOUR|10FIVE|10SIX|10SEVEN|10EIGHT|10NINE|10PLUS SIGN|10MINUS|10EQUALS SIGN"),
   (0x208D, "10LEFT PARENTHESIS|11RIGHT"),
   (0x2090, "00LATIN SUBSCRIPT SMALL LETTER A|40E|40O|40X|40SCHWA|40H|40K|40L|40M|40N|40P|40S|40T"),
   (0x20A0, "00EURO-CURRENCY SIGN|01COLON|01CRUZEIRO|01FRENCH FRANC|01LIRA|01MILL|01NAIRA"),
   (0x20A7, "01PESETA|01RUPEE|01WON|01NEW SHEQEL|01DONG|01EURO|01KIP|01TUGRIK|01DRACHMA"),
   (0x20B0, "01GERMAN PENNY|01PESO|01GUARANI|01AUSTRAL|01HRYVNIA|01CEDI|01LIVRE TOURNOIS"),
   (0x20B7, "01SPESMILO|01TENGE|01INDIAN RUPEE|01TURKISH LIRA|01NORDIC MARK|01MANAT|01RUBLE"),
   (0x20BE, "01LARI|01BITCOIN|01SOM"),
   (0x20D0, "00COMBINING LEFT HARPOON ABOVE|12RIGHT|10LONG VERTICAL LINE OVERLAY|13SHORT"),
   (0x20D4, "10ANTICLOCKWISE ARROW ABOVE|12CLOCKWISE|12LEFT|12RIGHT|10RING OVERLAY|12CLOCKWISE"),
   (0x20DA, "12ANTICLOCKWISE|10THREE DOTS ABOVE|12FOUR|10ENCLOSING CIRCLE|20SQUARE|20DIAMOND"),
   (0x20E0, "20CIRCLE BACKSLASH|10LEFT RIGHT ARROW ABOVE|10ENCLOSING SCREEN|20KEYCAP"),
   (0x20E4, "20UPWARD POINTING TRIANGLE|10REVERSE SOLIDUS OVERLAY|11DOUBLE VERTICAL STROKE"),
   (0x20E7, "10ANNUITY SYMBOL|10TRIPLE UNDERDOT|10WIDE BRIDGE ABOVE|10LEFTWARDS ARROW OVERLAY"),
   (0x20EB, "11LONG DOUBLE SOLIDUS|10RIGHTWARDS HARPOON WITH BARB DOWNWARDS|14LEFTWARDS"),
   (0x20EE, "10LEFT ARROW BELOW|12RIGHT|10ASTERISK ABOVE"),
   (0x2100, "00ACCOUNT OF|00ADDRESSED TO THE SUBJECT|00DOUBLE-STRUCK CAPITAL C|00DEGREE CELSIUS"),
   (0x2104, "00CENTRE LINE SYMBOL|00CARE OF|00CADA UNA|00EULER CONSTANT|00SCRUPLE"),
   (0x2109, "00DEGREE FAHRENHEIT|00SCRIPT SMALL G|10CAPITAL H|02BLACK-LETTER|02DOUBLE-STRUCK"),
   (0x210E, "00PLANCK CONSTANT|20OVER TWO PI|00SCRIPT CAPITAL I|02BLACK-LETTER|00SCRIPT CAPITAL L"),
   (0x2113, "11SMALL|00L B BAR SYMBOL|00DOUBLE-STRUCK CAPITAL N|00NUMERO SIGN"),
   (0x2117, "00SOUND RECORDING COPYRIGHT|00SCRIPT CAPITAL P|02DOUBLE-STRUCK|20Q"),
   (0x211B, "00SCRIPT CAPITAL R|02BLACK-LETTER|02DOUBLE-STRUCK|00PRESCRIPTION TAKE|00RESPONSE"),
   (0x2120, "00SERVICE MARK|00TELEPHONE SIGN|01TRADE MARK|00VERSICLE|00DOUBLE-STRUCK CAPITAL Z"),
   (0x2125, "00OUNCE SIGN|01OHM|02INVERTED|00BLACK-LETTER CAPITAL Z"),
   (0x2129, "00TURNED GREEK SMALL LETTER IOTA|00KELVIN SIGN|01ANGSTROM|00SCRIPT CAPITAL B"),
   (0x212D, "00BLACK-LETTER CAPITAL C|00ESTIMATED SYMBOL|00SCRIPT SMALL E|11CAPITAL|20F|02TURNED"),
   (0x2133, "00SCRIPT CAPITAL M|10SMALL O|00ALEF SYMBOL|01BET|01GIMEL|01DALET"),
   (0x2139, "00INFORMATION SOURCE|00ROTATED CAPITAL Q|00FACSIMILE SIGN|00DOUBLE-STRUCK SMALL PI"),
   (0x213D, "20GAMMA|11CAPITAL|20PI|10N-ARY SUMMATION|00TURNED SANS-SERIF CAPITAL G|30L"),
   (0x2143, "03REVERSED|00TURNED SANS-SERIF CAPITAL Y|00DOUBLE-STRUCK ITALIC CAPITAL D|21SMALL"),
   (0x2147, "30E|30I|30J|00PROPERTY LINE|00TURNED AMPERSAND|00PER SIGN|00AKTIESELSKAB"),
   (0x214E, "00TURNED SMALL F|00SYMBOL FOR SAMARITAN SOURCE|00VULGAR FRACTION ONE SEVENTH|30NINTH"),
   (0x2152, "30TENTH|30THIRD|20TWO THIRDS|20ONE FIFTH|20TWO FIFTHS|21THREE|21FOUR|20ONE SIXTH"),
   (0x215A, "20FIVE SIXTHS|20ONE EIGHTH|20THREE EIGHTHS|21FIVE|21SEVEN|00FRACTION NUMERATOR ONE"),
   (0x2160, "01ROMAN NUMERAL|20TWO|20THREE|20FOUR|20FIVE|20SIX|20SEVEN|20EIGHT|20NINE|20TEN"),
   (0x216A, "20ELEVEN|20TWELVE|20FIFTY|20ONE HUNDRED|21FIVE|20ONE THOUSAND"),
   (0x2170, "00SMALL ROMAN NUMERAL ONE|30TWO|30THREE|30FOUR|30FIVE|30SIX|30SEVEN|30EIGHT|30NINE"),
   (0x2179, "30TEN|30ELEVEN|30TWELVE|30FIFTY|30ONE HUNDRED|31FIVE|30ONE THOUSAND"),
   (0x2180, "00ROMAN NUMERAL ONE THOUSAND C D|20FIVE THOUSAND|21TEN|20REVERSED ONE HUNDRED"),
   (0x2184, "00LATIN SMALL LETTER REVERSED C|00ROMAN NUMERAL SIX LATE FORM|21FIFTY EARLY"),
   (0x2187, "30THOUSAND|21ONE HUNDRED|00VULGAR FRACTION ZERO THIRDS|00TURNED DIGIT TWO|20THREE"),
   (0x2190, "00LEFTWARDS ARROW|01UPWARDS|01RIGHTWARDS|01DOWNWARDS|01LEFT RIGHT|01UP DOWN"),
   (0x2196, "01NORTH WEST|11EAST|02SOUTH|11WEST|00LEFTWARDS ARROW WITH STROKE|03RIGHTWARDS"),
   (0x219C, "00LEFTWARDS WAVE ARROW|02RIGHTWARDS|01LEFTWARDS TWO HEADED|03UPWARDS|03RIGHTWARDS"),
   (0x21A1, "03DOWNWARDS|00LEFTWARDS ARROW WITH TAIL|03RIGHTWARDS|00LEFTWARDS ARROW FROM BAR"),
   (0x21A5, "03UPWARDS|03RIGHTWARDS|03DOWNWARDS|00UP DOWN ARROW WITH BASE"),
   (0x21A9, "00LEFTWARDS ARROW WITH HOOK|03RIGHTWARDS|00LEFTWARDS ARROW WITH LOOP|03RIGHTWARDS"),
   (0x21AD, "00LEFT RIGHT WAVE ARROW|20ARROW WITH STROKE|00DOWNWARDS ZIGZAG ARROW"),
   (0x21B0, "00UPWARDS ARROW WITH TIP LEFTWARDS|40RIGHTWARDS|00DOWNWARDS ARROW WITH TIP LEFTWARDS"),
   (0x21B3, "40RIGHTWARDS|00RIGHTWARDS ARROW WITH CORNER DOWNWARDS"),
   (0x21B5, "00DOWNWARDS ARROW WITH CORNER LEFTWARDS|00ANTICLOCKWISE TOP SEMICIRCLE ARROW"),
   (0x21B7, "03CLOCKWISE|00NORTH WEST ARROW TO LONG BAR"),
   (0x21B9, "01LEFTWARDS ARROW TO BAR OVER RIGHTWARDS ARROW TO|00ANTICLOCKWISE OPEN CIRCLE ARROW"),
   (0x21BB, "03CLOCKWISE|00LEFTWARDS HARPOON WITH BARB UPWARDS|40DOWNWARDS"),
   (0x21BE, "00UPWARDS HARPOON WITH BARB RIGHTWARDS|40LEFTWARDS"),
   (0x21C0, "00RIGHTWARDS HARPOON WITH BARB UPWARDS|40DOWNWARDS"),
   (0x21C2, "00DOWNWARDS HARPOON WITH BARB RIGHTWARDS|40LEFTWARDS"),
   (0x21C4, "00RIGHTWARDS ARROW OVER LEFTWARDS ARROW|01UPWARDS ARROW LEFTWARDS OF DOWNWARDS"),
   (0x21C6, "01LEFTWARDS ARROW OVER RIGHTWARDS|10PAIRED ARROWS|02UPWARDS|02RIGHTWARDS|02DOWNWARDS"),
   (0x21CB, "00LEFTWARDS HARPOON OVER RIGHTWARDS HARPOON|01RIGHTWARDS HARPOON OVER LEFTWARDS"),
   (0x21CD, "00LEFTWARDS DOUBLE ARROW WITH STROKE|04LEFT RIGHT|04RIGHTWARDS"),
   (0x21D0, "00LEFTWARDS DOUBLE ARROW|02UPWARDS|02RIGHTWARDS|02DOWNWARDS|02LEFT RIGHT|02UP DOWN"),
   (0x21D6, "02NORTH WEST|12EAST|03SOUTH|12WEST|01LEFTWARDS TRIPLE|02RIGHTWARDS"),
   (0x21DC, "01LEFTWARDS SQUIGGLE|02RIGHTWARDS|00UPWARDS ARROW WITH DOUBLE STROKE|04DOWNWARDS"),
   (0x21E0, "00LEFTWARDS DASHED ARROW|02UPWARDS|02RIGHTWARDS|02DOWNWARDS|00LEFTWARDS ARROW TO BAR"),
   (0x21E5, "03RIGHTWARDS|00LEFTWARDS WHITE ARROW|02UPWARDS|02RIGHTWARDS|02DOWNWARDS"),
   (0x21EA, "00UPWARDS WHITE ARROW FROM BAR|30ON PEDESTAL|50WITH HORIZONTAL BAR|61VERTICAL"),
   (0x21EE, "20DOUBLE ARROW|40ON PEDESTAL|00RIGHTWARDS WHITE ARROW FROM WALL"),
   (0x21F1, "00NORTH WEST ARROW TO CORNER|03SOUTH EAST|00UP DOWN WHITE ARROW"),
   (0x21F4, "00RIGHT ARROW WITH SMALL CIRCLE|00DOWNWARDS ARROW LEFTWARDS OF UPWARDS ARROW"),
   (0x21F6, "00THREE RIGHTWARDS ARROWS|00LEFTWARDS ARROW WITH VERTICAL STROKE|04RIGHTWARDS"),
   (0x21F9, "04LEFT RIGHT|02LEFTWARDS ARROW WITH DOUBLE|05RIGHTWARDS|05LEFT RIGHT"),
   (0x21FD, "00LEFTWARDS OPEN-HEADED ARROW|02RIGHTWARDS|02LEFT RIGHT|00FOR ALL|00COMPLEMENT"),
   (0x2202, "00PARTIAL DIFFERENTIAL|00THERE EXISTS|10DOES NOT EXIST|00EMPTY SET|00INCREMENT"),
   (0x2207, "00NABLA|00ELEMENT OF|02NOT AN|02SMALL|00CONTAINS AS MEMBER|02DOES NOT CONTAIN"),
   (0x220D, "02SMALL CONTAINS|00END OF PROOF|00N-ARY PRODUCT|10COPRODUCT|10SUMMATION|00MINUS SIGN"),
   (0x2213, "01MINUS-OR-PLUS|00DOT PLUS|00DIVISION SLASH|00SET MINUS|00ASTERISK OPERATOR|01RING"),
   (0x2219, "01BULLET|00SQUARE ROOT|01CUBE|01FOURTH|00PROPORTIONAL TO|00INFINITY|00RIGHT ANGLE|01"),
   (0x2221, "01MEASURED|01SPHERICAL|00DIVIDES|00DOES NOT DIVIDE|00PARALLEL TO|02NOT|00LOGICAL AND"),
   (0x2228, "10OR|00INTERSECTION|00UNION|00INTEGRAL|01DOUBLE|01TRIPLE|01CONTOUR|01SURFACE"),
   (0x2230, "01VOLUME|01CLOCKWISE|11CONTOUR|02ANTICLOCKWISE|00THEREFORE|00BECAUSE|00RATIO"),
   (0x2237, "00PROPORTION|00DOT MINUS|00EXCESS|00GEOMETRIC PROPORTION|00HOMOTHETIC"),
   (0x223C, "00TILDE OPERATOR|00REVERSED TILDE|00INVERTED LAZY S|00SINE WAVE|00WREATH PRODUCT"),
   (0x2241, "00NOT TILDE|01MINUS|00ASYMPTOTICALLY EQUAL TO|03NOT|02APPROXIMATELY"),
   (0x2246, "12BUT NOT ACTUALLY|03NEITHER APPROXIMATELY NOR|02ALMOST|03NOT|02ALMOST EQUAL OR"),
   (0x224B, "00TRIPLE TILDE|00ALL EQUAL TO|01EQUIVALENT|02GEOMETRICALLY|00DIFFERENCE BETWEEN"),
   (0x2250, "00APPROACHES THE LIMIT|00GEOMETRICALLY EQUAL TO"),
   (0x2252, "00APPROXIMATELY EQUAL TO OR THE IMAGE OF|00IMAGE OF OR APPROXIMATELY EQUAL TO"),
   (0x2254, "00COLON EQUALS|00EQUALS COLON|00RING IN EQUAL TO|12|01CORRESPONDS|00ESTIMATES"),
   (0x225A, "00EQUIANGULAR TO|00STAR EQUALS|00DELTA EQUAL TO|00EQUAL TO BY DEFINITION"),
   (0x225E, "00MEASURED BY|00QUESTIONED EQUAL TO|02NOT|01IDENTICAL|02NOT|01STRICTLY EQUIVALENT"),
   (0x2264, "01LESS-THAN OR EQUAL|03GREATER-THAN|02LESS-THAN OVER|03GREATER-THAN"),
   (0x2268, "02LESS-THAN BUT NOT|04GREATER-THAN|00MUCH LESS-THAN|10GREATER-THAN|00BETWEEN"),
   (0x226D, "00NOT EQUIVALENT TO|10LESS-THAN|10GREATER-THAN|00NEITHER LESS-THAN NOR EQUAL TO"),
   (0x2271, "13GREATER-THAN|01LESS-THAN OR EQUIVALENT|03GREATER-THAN|02NEITHER LESS-THAN NOR"),
   (0x2275, "13GREATER-THAN|00LESS-THAN OR GREATER-THAN|00GREATER-THAN OR LESS-THAN"),
   (0x2278, "00NEITHER LESS-THAN NOR GREATER-THAN|10GREATER-THAN NOR LESS-THAN|00PRECEDES"),
   (0x227B, "00SUCCEEDS|00PRECEDES OR EQUAL TO|03SUCCEEDS|01PRECEDES OR EQUIVALENT|03SUCCEEDS"),
   (0x2280, "00DOES NOT PRECEDE|20SUCCEED|00SUBSET OF|01SUPERSET|01NOT A SUBSET|21SUPERSET"),
   (0x2286, "00SUBSET OF OR EQUAL TO|04SUPERSET|02NEITHER A SUBSET OF NOR|24SUPERSET"),
   (0x228A, "02SUBSET OF WITH NOT|05SUPERSET|00MULTISET|10MULTIPLICATION|10UNION"),
   (0x228F, "00SQUARE IMAGE OF|11ORIGINAL|10IMAGE OF OR EQUAL TO|14ORIGINAL|10CAP|10CUP"),
   (0x2295, "00CIRCLED PLUS|10MINUS|10TIMES|10DIVISION SLASH|10DOT OPERATOR|11RING|11ASTERISK"),
   (0x229C, "10EQUALS|10DASH|00SQUARED PLUS|10MINUS|10TIMES|10DOT OPERATOR|00RIGHT TACK|01LEFT"),
   (0x22A4, "01DOWN|01UP|00ASSERTION|00MODELS|00TRUE|00FORCES"),
   (0x22AA, "00TRIPLE VERTICAL BAR RIGHT TURNSTILE|02DOUBLE VERTICAL BAR DOUBLE|00DOES NOT PROVE"),
   (0x22AD, "00NOT TRUE|00DOES NOT FORCE|00NEGATED DOUBLE VERTICAL BAR DOUBLE RIGHT TURNSTILE"),
   (0x22B0, "00PRECEDES UNDER RELATION|02SUCCEEDS|00NORMAL SUBGROUP OF"),
   (0x22B3, "00CONTAINS AS NORMAL SUBGROUP|00NORMAL SUBGROUP OF OR EQUAL TO"),
   (0x22B5, "03CONTAINS AS NORMAL SUBGROUP|00ORIGINAL OF|01IMAGE|00MULTIMAP"),
   (0x22B9, "00HERMITIAN CONJUGATE MATRIX|00INTERCALATE|00XOR|00NAND|00NOR|00RIGHT ANGLE WITH ARC"),
   (0x22BF, "10TRIANGLE|00N-ARY LOGICAL AND|20OR|10INTERSECTION|10UNION|00DIAMOND OPERATOR|01DOT"),
   (0x22C6, "01STAR|00DIVISION TIMES|00BOWTIE|00LEFT NORMAL FACTOR SEMIDIRECT PRODUCT|04RIGHT"),
   (0x22CB, "02LEFT|02RIGHT|00REVERSED TILDE EQUALS|00CURLY LOGICAL OR|20AND|00DOUBLE SUBSET"),
   (0x22D1, "10SUPERSET|10INTERSECTION|10UNION|00PITCHFORK|00EQUAL AND PARALLEL TO"),
   (0x22D6, "00LESS-THAN WITH DOT|02GREATER-THAN|00VERY MUCH LESS-THAN|20GREATER-THAN"),
   (0x22DA, "01LESS-THAN EQUAL TO OR|00GREATER-THAN EQUAL TO OR LESS-THAN|04|30GREATER-THAN"),
   (0x22DE, "30PRECEDES|30SUCCEEDS|00DOES NOT PRECEDE OR EQUAL|22SUCCEED"),
   (0x22E2, "00NOT SQUARE IMAGE OF OR EQUAL TO|24ORIGINAL|02SQUARE IMAGE OF OR NOT|15ORIGINAL"),
   (0x22E6, "01LESS-THAN BUT NOT EQUIVALENT|04GREATER-THAN|04PRECEDES|04SUCCEEDS"),
   (0x22EA, "00NOT NORMAL SUBGROUP OF|00DOES NOT CONTAIN AS NORMAL SUBGROUP"),
   (0x22EC, "00NOT NORMAL SUBGROUP OF OR EQUAL TO|00DOES NOT CONTAIN AS NORMAL SUBGROUP OR EQUAL"),
   (0x22EE, "00VERTICAL ELLIPSIS|01MIDLINE HORIZONTAL|01UP RIGHT DIAGONAL|03DOWN"),
   (0x22F2, "00ELEMENT OF WITH LONG HORIZONTAL STROKE|32VERTICAL BAR AT END OF|09SMALL ELEMENT"),
   (0x22F5, "00ELEMENT OF WITH DOT ABOVE|30OVERBAR|04SMALL|00ELEMENT OF WITH UNDERBAR"),
   (0x22F9, "30TWO HORIZONTAL STROKES|00CONTAINS WITH LONG HORIZONTAL STROKE"),
   (0x22FB, "22VERTICAL BAR AT END OF|09SMALL|00CONTAINS WITH OVERBAR|03SMALL"),
   (0x22FF, "00Z NOTATION BAG MEMBERSHIP|00DIAMETER SIGN|00ELECTRIC ARROW|00HOUSE|00UP ARROWHEAD"),
   (0x2304, "01DOWN|00PROJECTIVE|00PERSPECTIVE|00WAVY LINE|00LEFT CEILING|01RIGHT|00LEFT FLOOR"),
   (0x230B, "01RIGHT|00BOTTOM RIGHT CROP|11LEFT|01TOP RIGHT|11LEFT|00REVERSED NOT SIGN"),
   (0x2311, "00SQUARE LOZENGE|00ARC|00SEGMENT|00SECTOR|00TELEPHONE RECORDER|00POSITION INDICATOR"),
   (0x2317, "00VIEWDATA SQUARE|00PLACE OF INTEREST SIGN|01TURNED NOT|00WATCH|00HOURGLASS"),
   (0x231C, "00TOP LEFT CORNER|11RIGHT|01BOTTOM LEFT|11RIGHT|00TOP HALF INTEGRAL|02BOTTOM|00FROWN"),
   (0x2323, "00SMILE|00UP ARROWHEAD BETWEEN TWO HORIZONTAL BARS|00OPTION KEY|00ERASE TO THE RIGHT"),
   (0x2327, "00X IN A RECTANGLE BOX|00KEYBOARD|00LEFT-POINTING ANGLE BRACKET|02RIGHT-POINTING"),
   (0x232B, "00ERASE TO THE LEFT|00BENZENE RING|00CYLINDRICITY|00ALL AROUND-PROFILE|00SYMMETRY"),
   (0x2330, "00TOTAL RUNOUT|00DIMENSION ORIGIN|00CONICAL TAPER|00SLOPE|00COUNTERBORE"),
   (0x2335, "00COUNTERSINK|00APL FUNCTIONAL SYMBOL I-BEAM|30SQUISH QUAD|30QUAD EQUAL|40DIVIDE"),
   (0x233A, "40DIAMOND|40JOT|40CIRCLE|30CIRCLE STILE|40JOT|30SLASH BAR|31BACKSLASH|30QUAD SLASH"),
   (0x2342, "40BACKSLASH|40LESS-THAN|40GREATER-THAN|30LEFTWARDS VANE|31RIGHTWARDS"),
   (0x2347, "30QUAD LEFTWARDS ARROW|41RIGHTWARDS|30CIRCLE BACKSLASH|30DOWN TACK UNDERBAR"),
   (0x234B, "30DELTA STILE|30QUAD DOWN CARET|40DELTA|30DOWN TACK JOT|30UPWARDS VANE"),
   (0x2350, "30QUAD UPWARDS ARROW|30UP TACK OVERBAR|30DEL STILE|30QUAD UP CARET|40DEL"),
   (0x2355, "30UP TACK JOT|30DOWNWARDS VANE|30QUAD DOWNWARDS ARROW|30QUOTE UNDERBAR|31DELTA"),
   (0x235A, "31DIAMOND|31JOT|31CIRCLE|30UP SHOE JOT|30QUOTE QUAD|30CIRCLE STAR|30QUAD COLON"),
   (0x2361, "30UP TACK DIAERESIS|31DEL|31STAR|31JOT|31CIRCLE|30DOWN SHOE STILE|32LEFT"),
   (0x2368, "30TILDE DIAERESIS|31GREATER-THAN|30COMMA BAR|30DEL TILDE|30ZILDE|30STILE TILDE"),
   (0x236E, "30SEMICOLON UNDERBAR|30QUAD NOT EQUAL|40QUESTION|30DOWN CARET TILDE|32UP|30IOTA"),
   (0x2374, "30RHO|30OMEGA|30ALPHA UNDERBAR|31EPSILON|31IOTA|31OMEGA|30ALPHA|00NOT CHECK MARK"),
   (0x237C, "00RIGHT ANGLE WITH DOWNWARDS ZIGZAG ARROW|00SHOULDERED OPEN BOX|00BELL SYMBOL"),
   (0x237F, "00VERTICAL LINE WITH MIDDLE DOT|00INSERTION SYMBOL|01CONTINUOUS UNDERLINE"),
   (0x2382, "02DISCONTINUOUS|01EMPHASIS|01COMPOSITION|00WHITE SQUARE WITH CENTRE VERTICAL LINE"),
   (0x2386, "00ENTER SYMBOL|01ALTERNATIVE KEY|01HELM|00CIRCLED HORIZONTAL BAR WITH NOTCH"),
   (0x238A, "10TRIANGLE DOWN|00BROKEN CIRCLE WITH NORTHWEST ARROW|00UNDO SYMBOL|01MONOSTABLE"),
   (0x238E, "01HYSTERESIS|01OPEN-CIRCUIT-OUTPUT H-TYPE|11L-TYPE|01PASSIVE-PULL-DOWN-OUTPUT"),
   (0x2392, "01PASSIVE-PULL-UP-OUTPUT|00DIRECT CURRENT SYMBOL FORM TWO|00SOFTWARE-FUNCTION SYMBOL"),
   (0x2395, "00APL FUNCTIONAL SYMBOL QUAD|00DECIMAL SEPARATOR KEY SYMBOL|00PREVIOUS PAGE|01NEXT"),
   (0x2399, "00PRINT SCREEN SYMBOL|02CLEAR|00LEFT PARENTHESIS UPPER HOOK|20EXTENSION|20LOWER HOOK"),
   (0x239E, "01RIGHT PARENTHESIS UPPER|20EXTENSION|20LOWER HOOK"),
   (0x23A1, "00LEFT SQUARE BRACKET UPPER CORNER|30EXTENSION|30LOWER CORNER"),
   (0x23A4, "01RIGHT SQUARE BRACKET UPPER|30EXTENSION|30LOWER CORNER"),
   (0x23A7, "00LEFT CURLY BRACKET UPPER HOOK|30MIDDLE PIECE|30LOWER HOOK"),
   (0x23AA, "00CURLY BRACKET EXTENSION|00RIGHT CURLY BRACKET UPPER HOOK|30MIDDLE PIECE"),
   (0x23AD, "30LOWER HOOK|00INTEGRAL EXTENSION|01HORIZONTAL LINE"),
   (0x23B0, "00UPPER LEFT OR LOWER RIGHT CURLY BRACKET SECTION|13RIGHT OR LOWER LEFT"),
   (0x23B2, "00SUMMATION TOP|10BOTTOM|00TOP SQUARE BRACKET|02BOTTOM|30OVER TOP SQUARE BRACKET"),
   (0x23B7, "00RADICAL SYMBOL BOTTOM|00LEFT VERTICAL BOX LINE|03RIGHT|00HORIZONTAL SCAN LINE-1"),
   (0x23BB, "20LINE-3|20LINE-7|20LINE-9|00DENTISTRY SYMBOL LIGHT VERTICAL AND TOP RIGHT|51BOTTOM"),
   (0x23C0, "40WITH CIRCLE|32DOWN AND HORIZONTAL|34UP|30VERTICAL WITH TRIANGLE"),
   (0x23C4, "32DOWN AND HORIZONTAL|34UP|30VERTICAL AND WAVE|31DOWN AND HORIZONTAL WITH|34UP"),
   (0x23C9, "30DOWN AND HORIZONTAL|32UP|30VERTICAL AND TOP LEFT|51BOTTOM|00SQUARE FOOT"),
   (0x23CE, "00RETURN SYMBOL|01EJECT|00VERTICAL LINE EXTENSION|00METRICAL BREVE|10LONG OVER SHORT"),
   (0x23D3, "10SHORT OVER LONG|10LONG OVER TWO SHORTS|10TWO SHORTS OVER LONG|30JOINED|10TRISEME"),
   (0x23D8, "10TETRASEME|10PENTASEME|00EARTH GROUND|00FUSE|00TOP PARENTHESIS|01BOTTOM"),
   (0x23DE, "00TOP CURLY BRACKET|02BOTTOM|01TOP TORTOISE SHELL|03BOTTOM|00WHITE TRAPEZIUM"),
   (0x23E3, "00BENZENE RING WITH CIRCLE|00STRAIGHTNESS|00FLATNESS|00AC CURRENT"),
   (0x23E7, "00ELECTRICAL INTERSECTION|00DECIMAL EXPONENT SYMBOL"),
   (0x23E9, "00BLACK RIGHT-POINTING DOUBLE TRIANGLE|12LEFT-POINTING|12UP-POINTING|12DOWN-POINTING"),
   (0x23ED, "10RIGHT-POINTING DOUBLE TRIANGLE WITH VERTICAL BAR|15LEFT-POINTING"),
   (0x23EF, "12RIGHT-POINTING TRIANGLE WITH DOUBLE|00ALARM CLOCK|00STOPWATCH|00TIMER CLOCK"),
   (0x23F3, "00HOURGLASS WITH FLOWING SAND|00BLACK MEDIUM LEFT-POINTING TRIANGLE|21RIGHT-POINTING"),
   (0x23F6, "21UP-POINTING|21DOWN-POINTING|00DOUBLE VERTICAL BAR|00BLACK SQUARE FOR STOP"),
   (0x23FA, "10CIRCLE FOR RECORD|00POWER SYMBOL|11ON-OFF|11ON|11SLEEP|01OBSERVER EYE"),
   (0x2400, "00SYMBOL FOR NULL|20START OF HEADING|40TEXT|22END|40TRANSMISSION|20ENQUIRY"),
   (0x2406, "20ACKNOWLEDGE|20BELL|20BACKSPACE|20HORIZONTAL TABULATION|20LINE FEED"),
   (0x240B, "20VERTICAL TABULATION|20FORM FEED|20CARRIAGE RETURN|20SHIFT OUT|30IN"),
   (0x2410, "20DATA LINK ESCAPE|20DEVICE CONTROL ONE|40TWO|40THREE|40FOUR|20NEGATIVE ACKNOWLEDGE"),
   (0x2416, "20SYNCHRONOUS IDLE|20END OF TRANSMISSION BLOCK|20CANCEL|20END OF MEDIUM|20SUBSTITUTE"),
   (0x241B, "20ESCAPE|20FILE SEPARATOR|21GROUP|21RECORD|21UNIT|20SPACE|20DELETE|00BLANK SYMBOL"),
   (0x2423, "00OPEN BOX|00SYMBOL FOR NEWLINE|20DELETE FORM TWO|22SUBSTITUTE"),
   (0x2440, "00OCR HOOK|10CHAIR|10FORK|11INVERTED|10BELT BUCKLE|10BOW TIE"),
   (0x2446, "10BRANCH BANK IDENTIFICATION|10AMOUNT OF CHECK|10DASH|10CUSTOMER ACCOUNT NUMBER"),
   (0x244A, "10DOUBLE BACKSLASH"),
   (0x2460, "00CIRCLED DIGIT ONE|20TWO|20THREE|20FOUR|20FIVE|20SIX|20SEVEN|20EIGHT|20NINE"),
   (0x2469, "10NUMBER TEN|20ELEVEN|20TWELVE|20THIRTEEN|20FOURTEEN|20FIFTEEN|20SIXTEEN|20SEVENTEEN"),
   (0x2471, "20EIGHTEEN|20NINETEEN|20TWENTY|00PARENTHESIZED DIGIT ONE|20TWO|20THREE|20FOUR|20FIVE"),
   (0x2479, "20SIX|20SEVEN|20EIGHT|20NINE|10NUMBER TEN|20ELEVEN|20TWELVE|20THIRTEEN|20FOURTEEN"),
   (0x2482, "20FIFTEEN|20SIXTEEN|20SEVENTEEN|20EIGHTEEN|20NINETEEN|20TWENTY|00DIGIT ONE FULL STOP"),
   (0x2489, "12TWO|12THREE|12FOUR|12FIVE|12SIX|12SEVEN|12EIGHT|12NINE|02NUMBER TEN|12ELEVEN"),
   (0x2493, "12TWELVE|12THIRTEEN|12FOURTEEN|12FIFTEEN|12SIXTEEN|12SEVENTEEN|12EIGHTEEN|12NINETEEN"),
   (0x249B, "12TWENTY|00PARENTHESIZED LATIN SMALL LETTER A|40B|40C|40D|40E|40F|40G|40H|40I|40J"),
   (0x24A6, "40K|40L|40M|40N|40O|40P|40Q|40R|40S|40T|40U|40V|40W|40X|40Y|40Z"),
   (0x24B6, "00CIRCLED LATIN CAPITAL LETTER A|40B|40C|40D|40E|40F|40G|40H|40I|40J|40K|40L|40M|40N"),
   (0x24C4, "40O|40P|40Q|40R|40S|40T|40U|40V|40W|40X|40Y|40Z|20SMALL LETTER A|40B|40C|40D|40E|40F"),
   (0x24D6, "40G|40H|40I|40J|40K|40L|40M|40N|40O|40P|40Q|40R|40S|40T|40U|40V|40W|40X|40Y|40Z"),
   (0x24EA, "10DIGIT ZERO|00NEGATIVE CIRCLED NUMBER ELEVEN|30TWELVE|30THIRTEEN|30FOURTEEN"),
   (0x24EF, "30FIFTEEN|30SIXTEEN|30SEVENTEEN|30EIGHTEEN|30NINETEEN|30TWENTY"),
   (0x24F5, "00DOUBLE CIRCLED DIGIT ONE|30TWO|30THREE|30FOUR|30FIVE|30SIX|30SEVEN|30EIGHT|30NINE"),
   (0x24FE, "20NUMBER TEN|00NEGATIVE CIRCLED DIGIT ZERO|00BOX DRAWINGS LIGHT HORIZONTAL|21HEAVY"),
   (0x2502, "20LIGHT VERTICAL|21HEAVY|20LIGHT TRIPLE DASH HORIZONTAL|23HEAVY"),
   (0x2506, "20LIGHT TRIPLE DASH VERTICAL|23HEAVY|20LIGHT QUADRUPLE DASH HORIZONTAL|23HEAVY"),
   (0x250A, "20LIGHT QUADRUPLE DASH VERTICAL|23HEAVY|20LIGHT DOWN AND RIGHT"),
   (0x250D, "20DOWN LIGHT AND RIGHT HEAVY|30HEAVY AND RIGHT LIGHT|20HEAVY DOWN AND RIGHT"),
   (0x2510, "20LIGHT DOWN AND LEFT|20DOWN LIGHT AND LEFT HEAVY|30HEAVY AND LEFT LIGHT"),
   (0x2513, "20HEAVY DOWN AND LEFT|20LIGHT UP AND RIGHT|20UP LIGHT AND RIGHT HEAVY"),
   (0x2516, "30HEAVY AND RIGHT LIGHT|20HEAVY UP AND RIGHT|20LIGHT UP AND LEFT"),
   (0x2519, "20UP LIGHT AND LEFT HEAVY|30HEAVY AND LEFT LIGHT|20HEAVY UP AND LEFT"),
   (0x251C, "20LIGHT VERTICAL AND RIGHT|20VERTICAL LIGHT AND RIGHT HEAVY"),
   (0x251E, "20UP HEAVY AND RIGHT DOWN LIGHT|21DOWN HEAVY AND RIGHT UP|21VERTICAL HEAVY AND RIGHT"),
   (0x2521, "20DOWN LIGHT AND RIGHT UP HEAVY|21UP LIGHT AND RIGHT DOWN|20HEAVY VERTICAL AND RIGHT"),
   (0x2524, "20LIGHT VERTICAL AND LEFT|20VERTICAL LIGHT AND LEFT HEAVY"),
   (0x2526, "20UP HEAVY AND LEFT DOWN LIGHT|21DOWN HEAVY AND LEFT UP|21VERTICAL HEAVY AND LEFT"),
   (0x2529, "20DOWN LIGHT AND LEFT UP HEAVY|21UP LIGHT AND LEFT DOWN|20HEAVY VERTICAL AND LEFT"),
   (0x252C, "20LIGHT DOWN AND HORIZONTAL|20LEFT HEAVY AND RIGHT DOWN LIGHT|22RIGHT HEAVY AND LEFT"),
   (0x252F, "20DOWN LIGHT AND HORIZONTAL HEAVY|30HEAVY AND HORIZONTAL LIGHT"),
   (0x2531, "20RIGHT LIGHT AND LEFT DOWN HEAVY|22LEFT LIGHT AND RIGHT|20HEAVY DOWN AND HORIZONTAL"),
   (0x2534, "22LIGHT UP|20LEFT HEAVY AND RIGHT UP LIGHT|22RIGHT HEAVY AND LEFT"),
   (0x2537, "20UP LIGHT AND HORIZONTAL HEAVY|30HEAVY AND HORIZONTAL LIGHT"),
   (0x2539, "20RIGHT LIGHT AND LEFT UP HEAVY|22LEFT LIGHT AND RIGHT|20HEAVY UP AND HORIZONTAL"),
   (0x253C, "22LIGHT VERTICAL|20LEFT HEAVY AND RIGHT VERTICAL LIGHT|22RIGHT HEAVY AND LEFT"),
   (0x253F, "20VERTICAL LIGHT AND HORIZONTAL HEAVY|20UP HEAVY AND DOWN HORIZONTAL LIGHT"),
   (0x2541, "22DOWN HEAVY AND UP|22VERTICAL HEAVY AND|21LEFT UP HEAVY AND RIGHT DOWN"),
   (0x2544, "22RIGHT UP HEAVY AND LEFT|21LEFT DOWN HEAVY AND RIGHT UP|22RIGHT DOWN HEAVY AND LEFT"),
   (0x2547, "20DOWN LIGHT AND UP HORIZONTAL HEAVY|22UP LIGHT AND DOWN"),
   (0x2549, "21RIGHT LIGHT AND LEFT VERTICAL|22LEFT LIGHT AND RIGHT"),
   (0x254B, "20HEAVY VERTICAL AND HORIZONTAL|21LIGHT DOUBLE DASH|23HEAVY"),
   (0x254E, "20LIGHT DOUBLE DASH VERTICAL|23HEAVY|20DOUBLE HORIZONTAL|30VERTICAL"),
   (0x2552, "20DOWN SINGLE AND RIGHT DOUBLE|30DOUBLE AND RIGHT SINGLE|20DOUBLE DOWN AND RIGHT"),
   (0x2555, "20DOWN SINGLE AND LEFT DOUBLE|30DOUBLE AND LEFT SINGLE|20DOUBLE DOWN AND LEFT"),
   (0x2558, "20UP SINGLE AND RIGHT DOUBLE|30DOUBLE AND RIGHT SINGLE|20DOUBLE UP AND RIGHT"),
   (0x255B, "20UP SINGLE AND LEFT DOUBLE|30DOUBLE AND LEFT SINGLE|20DOUBLE UP AND LEFT"),
   (0x255E, "20VERTICAL SINGLE AND RIGHT DOUBLE|30DOUBLE AND RIGHT SINGLE"),
   (0x2560, "20DOUBLE VERTICAL AND RIGHT|20VERTICAL SINGLE AND LEFT DOUBLE"),
   (0x2562, "30DOUBLE AND LEFT SINGLE|20DOUBLE VERTICAL AND LEFT"),
   (0x2564, "20DOWN SINGLE AND HORIZONTAL DOUBLE|30DOUBLE AND HORIZONTAL SINGLE"),
   (0x2566, "20DOUBLE DOWN AND HORIZONTAL|20UP SINGLE AND HORIZONTAL DOUBLE"),
   (0x2568, "30DOUBLE AND HORIZONTAL SINGLE|20DOUBLE UP AND HORIZONTAL"),
   (0x256A, "20VERTICAL SINGLE AND HORIZONTAL DOUBLE|30DOUBLE AND HORIZONTAL SINGLE"),
   (0x256C, "20DOUBLE VERTICAL AND HORIZONTAL|20LIGHT ARC DOWN AND RIGHT|60LEFT|42UP|60RIGHT"),
   (0x2571, "30DIAGONAL UPPER RIGHT TO LOWER LEFT|50LEFT TO LOWER RIGHT|40CROSS|30LEFT|30UP"),
   (0x2576, "30RIGHT|30DOWN|20HEAVY LEFT|30UP|30RIGHT|30DOWN|20LIGHT LEFT AND HEAVY RIGHT"),
   (0x257D, "30UP AND HEAVY DOWN|20HEAVY LEFT AND LIGHT RIGHT|30UP AND LIGHT DOWN"),
   (0x2580, "00UPPER HALF BLOCK|01LOWER ONE EIGHTH|21QUARTER|11THREE EIGHTHS|11HALF"),
   (0x2585, "11FIVE EIGHTHS|11THREE QUARTERS|11SEVEN EIGHTHS|01FULL|01LEFT SEVEN EIGHTHS"),
   (0x258A, "11THREE QUARTERS|11FIVE EIGHTHS|11HALF|11THREE EIGHTHS|11ONE QUARTER|21EIGHTH"),
   (0x2590, "01RIGHT HALF|00LIGHT SHADE|01MEDIUM|01DARK|00UPPER ONE EIGHTH BLOCK|03RIGHT"),
   (0x2596, "00QUADRANT LOWER LEFT|20RIGHT|10UPPER LEFT|30AND LOWER LEFT AND LOWER RIGHT|51"),
   (0x259B, "40UPPER RIGHT AND LOWER LEFT|80RIGHT|21|30AND LOWER LEFT|60AND LOWER RIGHT"),
   (0x25A0, "00BLACK SQUARE|01WHITE|20WITH ROUNDED CORNERS|20CONTAINING BLACK SMALL SQUARE"),
   (0x25A4, "00SQUARE WITH HORIZONTAL FILL|21VERTICAL|21ORTHOGONAL CROSSHATCH"),
   (0x25A7, "21UPPER LEFT TO LOWER RIGHT|31RIGHT TO LOWER LEFT|21DIAGONAL CROSSHATCH"),
   (0x25AA, "00BLACK SMALL SQUARE|02WHITE|00BLACK RECTANGLE|01WHITE|01BLACK VERTICAL|02WHITE"),
   (0x25B0, "00BLACK PARALLELOGRAM|01WHITE|00BLACK UP-POINTING TRIANGLE|02WHITE"),
   (0x25B4, "01BLACK UP-POINTING SMALL|03WHITE|01BLACK RIGHT-POINTING|02WHITE"),
   (0x25B8, "01BLACK RIGHT-POINTING SMALL|03WHITE|00BLACK RIGHT-POINTING POINTER|02WHITE"),
   (0x25BC, "00BLACK DOWN-POINTING TRIANGLE|02WHITE|01BLACK DOWN-POINTING SMALL|03WHITE"),
   (0x25C0, "01BLACK LEFT-POINTING|02WHITE|01BLACK LEFT-POINTING SMALL|03WHITE"),
   (0x25C4, "00BLACK LEFT-POINTING POINTER|02WHITE|00BLACK DIAMOND|01WHITE"),
   (0x25C8, "20CONTAINING BLACK SMALL DIAMOND|00FISHEYE|00LOZENGE|00WHITE CIRCLE|01DOTTED"),
   (0x25CD, "00CIRCLE WITH VERTICAL FILL|00BULLSEYE|00BLACK CIRCLE|00CIRCLE WITH LEFT HALF BLACK"),
   (0x25D1, "22RIGHT|22LOWER|22UPPER|31RIGHT QUADRANT|22ALL BUT UPPER LEFT"),
   (0x25D6, "00LEFT HALF BLACK CIRCLE|03RIGHT|00INVERSE BULLET|10WHITE CIRCLE|03UPPER HALF"),
   (0x25DB, "04LOWER|00UPPER LEFT QUADRANT CIRCULAR ARC|13RIGHT|04LOWER|13LEFT"),
   (0x25E0, "00UPPER HALF CIRCLE|02LOWER|00BLACK LOWER RIGHT TRIANGLE|21LEFT|12UPPER|21RIGHT"),
   (0x25E6, "00WHITE BULLET|00SQUARE WITH LEFT HALF BLACK|22RIGHT|22UPPER LEFT DIAGONAL"),
   (0x25EA, "23LOWER RIGHT|00WHITE SQUARE WITH VERTICAL BISECTING LINE"),
   (0x25EC, "10UP-POINTING TRIANGLE WITH DOT|00UP-POINTING TRIANGLE WITH LEFT HALF BLACK|32RIGHT"),
   (0x25EF, "00LARGE CIRCLE|00WHITE SQUARE WITH UPPER LEFT QUADRANT|32LOWER|41RIGHT|32UPPER"),
   (0x25F4, "11CIRCLE WITH UPPER LEFT|32LOWER|41RIGHT|32UPPER|00UPPER LEFT TRIANGLE|11RIGHT"),
   (0x25FA, "01LOWER LEFT|00WHITE MEDIUM SQUARE|02BLACK|01WHITE MEDIUM SMALL|03BLACK"),
   (0x25FF, "00LOWER RIGHT TRIANGLE|00BLACK SUN WITH RAYS|00CLOUD|00UMBRELLA|00SNOWMAN|00COMET"),
   (0x2605, "00BLACK STAR|01WHITE|00LIGHTNING|00THUNDERSTORM|00SUN|00ASCENDING NODE|01DESCENDING"),
   (0x260C, "00CONJUNCTION|00OPPOSITION|00BLACK TELEPHONE|01WHITE|00BALLOT BOX|20WITH CHECK|30X"),
   (0x2613, "00SALTIRE|00UMBRELLA WITH RAIN DROPS|00HOT BEVERAGE|00WHITE SHOGI PIECE|02BLACK"),
   (0x2618, "00SHAMROCK|00REVERSED ROTATED FLORAL HEART BULLET|00BLACK LEFT POINTING INDEX"),
   (0x261B, "12RIGHT|02WHITE LEFT|12UP|12RIGHT|12DOWN|00SKULL AND CROSSBONES|00CAUTION SIGN"),
   (0x2622, "01RADIOACTIVE|01BIOHAZARD|00CADUCEUS|00ANKH|00ORTHODOX CROSS|00CHI RHO"),
   (0x2628, "00CROSS OF LORRAINE|20JERUSALEM|00STAR AND CRESCENT|00FARSI SYMBOL|00ADI SHAKTI"),
   (0x262D, "00HAMMER AND SICKLE|00PEACE SYMBOL|00YIN YANG|00TRIGRAM FOR HEAVEN|20LAKE|20FIRE"),
   (0x2633, "20THUNDER|20WIND|20WATER|20MOUNTAIN|20EARTH|00WHEEL OF DHARMA|00WHITE FROWNING FACE"),
   (0x263A, "11SMILING|02BLACK|00WHITE SUN WITH RAYS|00FIRST QUARTER MOON|02LAST|00MERCURY"),
   (0x2640, "00FEMALE SIGN|00EARTH|00MALE SIGN|00JUPITER|00SATURN|00URANUS|00NEPTUNE|00PLUTO"),
   (0x2648, "00ARIES|00TAURUS|00GEMINI|00CANCER|00LEO|00VIRGO|00LIBRA|00SCORPIUS|00SAGITTARIUS"),
   (0x2651, "00CAPRICORN|00AQUARIUS|00PISCES|00WHITE CHESS KING|20QUEEN|20ROOK|20BISHOP|20KNIGHT"),
   (0x2659, "20PAWN|00BLACK CHESS KING|20QUEEN|20ROOK|20BISHOP|20KNIGHT|20PAWN|10SPADE SUIT"),
   (0x2661, "01WHITE HEART|11DIAMOND|01BLACK CLUB|01WHITE SPADE|01BLACK HEART|11DIAMOND"),
   (0x2667, "01WHITE CLUB|00HOT SPRINGS|00QUARTER NOTE|01EIGHTH|00BEAMED EIGHTH NOTES|11SIXTEENTH"),
   (0x266D, "00MUSIC FLAT SIGN|11NATURAL|11SHARP|00WEST SYRIAC CROSS|02EAST"),
   (0x2672, "00UNIVERSAL RECYCLING SYMBOL|00RECYCLING SYMBOL FOR TYPE-1 PLASTICS|31TYPE-2"),
   (0x2675, "31TYPE-3|31TYPE-4|31TYPE-5|31TYPE-6|31TYPE-7|30GENERIC MATERIALS"),
   (0x267B, "00BLACK UNIVERSAL RECYCLING SYMBOL|01RECYCLED PAPER|02PARTIALLY-RECYCLED"),
   (0x267E, "00PERMANENT PAPER SIGN|00WHEELCHAIR SYMBOL|00DIE FACE-1|10FACE-2|10FACE-3|10FACE-4"),
   (0x2684, "10FACE-5|10FACE-6|00WHITE CIRCLE WITH DOT RIGHT|30TWO DOTS"),
   (0x2688, "00BLACK CIRCLE WITH WHITE DOT RIGHT|30TWO WHITE DOTS|00MONOGRAM FOR YANG|20YIN"),
   (0x268C, "00DIGRAM FOR GREATER YANG|20LESSER YIN|30YANG|20GREATER YIN|00WHITE FLAG|01BLACK"),
   (0x2692, "00HAMMER AND PICK|00ANCHOR|00CROSSED SWORDS|00STAFF OF AESCULAPIUS|00SCALES"),
   (0x2697, "00ALEMBIC|00FLOWER|00GEAR|00STAFF OF HERMES|00ATOM SYMBOL|00FLEUR-DE-LIS"),
   (0x269D, "00OUTLINED WHITE STAR|00THREE LINES CONVERGING RIGHT|30LEFT|00WARNING SIGN"),
   (0x26A1, "01HIGH VOLTAGE|01DOUBLED FEMALE|11MALE|02INTERLOCKED FEMALE AND|01MALE AND FEMALE"),
   (0x26A6, "11WITH STROKE|31AND MALE AND FEMALE|01VERTICAL MALE WITH STROKE|04HORIZONTAL"),
   (0x26AA, "00MEDIUM WHITE CIRCLE|11BLACK|11SMALL WHITE|00MARRIAGE SYMBOL|01DIVORCE"),
   (0x26AF, "01UNMARRIED PARTNERSHIP|00COFFIN|00FUNERAL URN|00NEUTER|00CERES|00PALLAS|00JUNO"),
   (0x26B6, "00VESTA|00CHIRON|00BLACK MOON LILITH|00SEXTILE|00SEMISEXTILE|00QUINCUNX"),
   (0x26BC, "00SESQUIQUADRATE|00SOCCER BALL|00BASEBALL|00SQUARED KEY|00WHITE DRAUGHTS MAN|20KING"),
   (0x26C2, "00BLACK DRAUGHTS MAN|20KING|00SNOWMAN WITHOUT SNOW|00SUN BEHIND CLOUD|00RAIN"),
   (0x26C7, "00BLACK SNOWMAN|00THUNDER CLOUD AND RAIN|00TURNED WHITE SHOGI PIECE|12BLACK"),
   (0x26CB, "00WHITE DIAMOND IN SQUARE|00CROSSING LANES|00DISABLED CAR|00OPHIUCHUS|00PICK"),
   (0x26D0, "00CAR SLIDING|00HELMET WITH WHITE CROSS|00CIRCLED CROSSING LANES|00CHAINS|00NO ENTRY"),
   (0x26D5, "00ALTERNATE ONE-WAY LEFT WAY TRAFFIC|03BLACK TWO-WAY|04WHITE|00BLACK LEFT LANE MERGE"),
   (0x26D9, "03WHITE|00DRIVE SLOW SIGN|00HEAVY WHITE DOWN-POINTING TRIANGLE|00LEFT CLOSED ENTRY"),
   (0x26DD, "00SQUARED SALTIRE|00FALLING DIAGONAL IN WHITE CIRCLE IN BLACK SQUARE|00BLACK TRUCK"),
   (0x26E0, "00RESTRICTED LEFT ENTRY-1|20ENTRY-2|00ASTRONOMICAL SYMBOL FOR URANUS"),
   (0x26E3, "00HEAVY CIRCLE WITH STROKE AND TWO DOTS ABOVE|00PENTAGRAM|01RIGHT-HANDED INTERLACED"),
   (0x26E6, "02LEFT-HANDED|01INVERTED|00BLACK CROSS ON SHIELD|00SHINTO SHRINE|00CHURCH|00CASTLE"),
   (0x26EC, "00HISTORIC SITE|00GEAR WITHOUT HUB|10WITH HANDLES|00MAP SYMBOL FOR LIGHTHOUSE"),
   (0x26F0, "00MOUNTAIN|00UMBRELLA ON GROUND|00FOUNTAIN|00FLAG IN HOLE|00FERRY|00SAILBOAT"),
   (0x26F6, "00SQUARE FOUR CORNERS|00SKIER|00ICE SKATE|00PERSON WITH BALL|00TENT"),
   (0x26FB, "00JAPANESE BANK SYMBOL|01HEADSTONE GRAVEYARD|00FUEL PUMP|00CUP ON BLACK SQUARE"),
   (0x26FF, "00WHITE FLAG WITH HORIZONTAL MIDDLE BLACK STRIPE|00BLACK SAFETY SCISSORS"),
   (0x2701, "01UPPER BLADE|01BLACK|01LOWER BLADE|01WHITE|10HEAVY CHECK MARK"),
   (0x2706, "00TELEPHONE LOCATION SIGN|00TAPE DRIVE|00AIRPLANE|00ENVELOPE|00RAISED FIST|10HAND"),
   (0x270C, "01VICTORY|01WRITING|00LOWER RIGHT PENCIL|01|01UPPER RIGHT|00WHITE NIB|01BLACK"),
   (0x2713, "00CHECK MARK|02HEAVY|00MULTIPLICATION X|02HEAVY|01BALLOT|02HEAVY"),
   (0x2719, "00OUTLINED GREEK CROSS|02HEAVY|01OPEN CENTRE|03HEAVY|01LATIN|02SHADOWED WHITE"),
   (0x271F, "02OUTLINED|01MALTESE|00STAR OF DAVID|00FOUR TEARDROP-SPOKED ASTERISK"),
   (0x2723, "11BALLOON-SPOKED|03HEAVY|01FOUR CLUB-SPOKED|00BLACK FOUR POINTED STAR|03WHITE"),
   (0x2728, "00SPARKLES|00STRESS OUTLINED WHITE STAR|02CIRCLED|01OPEN CENTRE BLACK"),
   (0x272C, "01BLACK CENTRE WHITE|01OUTLINED BLACK|03HEAVY|01PINWHEEL|01SHADOWED WHITE"),
   (0x2731, "00HEAVY ASTERISK|01OPEN CENTRE|01EIGHT SPOKED|10POINTED BLACK STAR|21PINWHEEL"),
   (0x2736, "01SIX POINTED BLACK|02EIGHT POINTED RECTILINEAR|05HEAVY|02TWELVE POINTED"),
   (0x273A, "00SIXTEEN POINTED ASTERISK|01TEARDROP-SPOKED|02OPEN CENTRE|02HEAVY"),
   (0x273E, "00SIX PETALLED BLACK AND WHITE FLORETTE|01BLACK|01WHITE"),
   (0x2741, "01EIGHT PETALLED OUTLINED BLACK|00CIRCLED OPEN CENTRE EIGHT POINTED STAR"),
   (0x2743, "00HEAVY TEARDROP-SPOKED PINWHEEL ASTERISK|00SNOWFLAKE|01TIGHT TRIFOLIATE"),
   (0x2746, "01HEAVY CHEVRON|00SPARKLE|01HEAVY|00BALLOON-SPOKED ASTERISK"),
   (0x274A, "01EIGHT TEARDROP-SPOKED PROPELLER|04HEAVY|00CROSS MARK|00SHADOWED WHITE CIRCLE"),
   (0x274E, "00NEGATIVE SQUARED CROSS MARK|00LOWER RIGHT DROP-SHADOWED WHITE SQUARE|04UPPER"),
   (0x2751, "02LOWER RIGHT SHADOWED|04UPPER|00BLACK QUESTION MARK ORNAMENT|03WHITE|12EXCLAMATION"),
   (0x2756, "00BLACK DIAMOND MINUS WHITE X|00HEAVY EXCLAMATION MARK SYMBOL|00LIGHT VERTICAL BAR"),
   (0x2759, "02MEDIUM|02HEAVY|10SINGLE TURNED COMMA QUOTATION MARK ORNAMENT|24|14DOUBLE TURNED|24"),
   (0x275F, "14LOW SINGLE|24DOUBLE|01CURVED STEM PARAGRAPH SIGN|01HEAVY EXCLAMATION MARK|13HEART"),
   (0x2764, "10BLACK HEART|00ROTATED HEAVY BLACK HEART BULLET|00FLORAL HEART"),
   (0x2767, "00ROTATED FLORAL HEART BULLET|00MEDIUM LEFT PARENTHESIS ORNAMENT|12RIGHT"),
   (0x276A, "12FLATTENED LEFT|22RIGHT|11LEFT-POINTING ANGLE BRACKET|13RIGHT-POINTING"),
   (0x276E, "01HEAVY LEFT-POINTING ANGLE QUOTATION MARK|14RIGHT-POINTING"),
   (0x2770, "11LEFT-POINTING ANGLE BRACKET|13RIGHT-POINTING|02LIGHT LEFT TORTOISE SHELL|14RIGHT"),
   (0x2774, "02MEDIUM LEFT CURLY|13RIGHT|00DINGBAT NEGATIVE CIRCLED DIGIT ONE|40TWO|40THREE"),
   (0x2779, "40FOUR|40FIVE|40SIX|40SEVEN|40EIGHT|40NINE|30NUMBER TEN"),
   (0x2780, "10CIRCLED SANS-SERIF DIGIT ONE|40TWO|40THREE|40FOUR|40FIVE|40SIX|40SEVEN|40EIGHT"),
   (0x2788, "40NINE|30NUMBER TEN|10NEGATIVE CIRCLED SANS-SERIF DIGIT ONE|50TWO|50THREE|50FOUR"),
   (0x278E, "50FIVE|50SIX|50SEVEN|50EIGHT|50NINE|40NUMBER TEN"),
   (0x2794, "00HEAVY WIDE-HEADED RIGHTWARDS ARROW|10PLUS SIGN|11MINUS|11DIVISION"),
   (0x2798, "10SOUTH EAST ARROW|11RIGHTWARDS|11NORTH EAST|01DRAFTING POINT RIGHTWARDS"),
   (0x279C, "02HEAVY ROUND-TIPPED|02TRIANGLE-HEADED|03HEAVY|03DASHED|04HEAVY|02BLACK"),
   (0x27A2, "00THREE-D TOP-LIGHTED RIGHTWARDS ARROWHEAD|12BOTTOM-LIGHTED|02BLACK"),
   (0x27A5, "00HEAVY BLACK CURVED DOWNWARDS AND RIGHTWARDS ARROW|33UPWARDS|02SQUAT BLACK"),
   (0x27A8, "03HEAVY CONCAVE-POINTED|02RIGHT-SHADED WHITE|03LEFT-SHADED|03BACK-TILTED SHADOWED"),
   (0x27AC, "04FRONT-TILTED|03HEAVY LOWER RIGHT-SHADOWED|14UPPER|04NOTCHED LOWER|00CURLY LOOP"),
   (0x27B1, "00NOTCHED UPPER RIGHT-SHADOWED WHITE RIGHTWARDS ARROW|03CIRCLED HEAVY"),
   (0x27B3, "02WHITE-FEATHERED|01BLACK-FEATHERED SOUTH EAST|11RIGHTWARDS|11NORTH EAST"),
   (0x27B7, "02HEAVY BLACK-FEATHERED SOUTH|21RIGHTWARDS|21NORTH EAST|01TEARDROP-BARBED RIGHTWARDS"),
   (0x27BB, "02HEAVY TEARDROP-SHANKED|02WEDGE-TAILED|03HEAVY|02OPEN-OUTLINED|00DOUBLE CURLY LOOP"),
   (0x3000, "00IDEOGRAPHIC SPACE|10COMMA|10FULL STOP|00DITTO MARK"),
   (0x3004, "00JAPANESE INDUSTRIAL STANDARD SYMBOL|00IDEOGRAPHIC ITERATION MARK|11CLOSING"),
   (0x3007, "10NUMBER ZERO|00LEFT ANGLE BRACKET|02RIGHT|02LEFT DOUBLE|03RIGHT|01LEFT CORNER"),
   (0x300D, "02RIGHT|02LEFT WHITE|03RIGHT|01LEFT BLACK LENTICULAR|03RIGHT|00POSTAL MARK|01GETA"),
   (0x3014, "00LEFT TORTOISE SHELL BRACKET|03RIGHT|01LEFT WHITE LENTICULAR|03RIGHT"),
   (0x3018, "01LEFT WHITE TORTOISE SHELL|04RIGHT|01LEFT WHITE SQUARE|03RIGHT|00WAVE DASH"),
   (0x301D, "00REVERSED DOUBLE PRIME QUOTATION MARK|04|04LOW|00POSTAL MARK FACE"),
   (0x3021, "00HANGZHOU NUMERAL ONE|20TWO|20THREE|20FOUR|20FIVE|20SIX|20SEVEN|20EIGHT|20NINE"),
   (0x302A, "00IDEOGRAPHIC LEVEL TONE MARK|12RISING|12DEPARTING|12ENTERING|02HANGUL SINGLE DOT"),
   (0x302F, "13DOUBLE|00WAVY DASH|00VERTICAL KANA REPEAT MARK|31WITH VOICED SOUND"),
   (0x3033, "30MARK UPPER HALF|33WITH VOICED SOUND|31MARK LOWER|00CIRCLED POSTAL MARK"),
   (0x3037, "00IDEOGRAPHIC TELEGRAPH LINE FEED SEPARATOR SYMBOL|00HANGZHOU NUMERAL TEN|20TWENTY"),
   (0x303A, "20THIRTY|00VERTICAL IDEOGRAPHIC ITERATION MARK|01MASU|01PART ALTERNATION"),
   (0x303E, "00IDEOGRAPHIC VARIATION INDICATOR|10HALF FILL SPACE"),
   (0x3041, "00HIRAGANA LETTER SMALL A|21|20SMALL I|21|20SMALL U|21|20SMALL E|21|20SMALL O|21"),
   (0x304B, "20KA|20GA|20KI|20GI|20KU|20GU|20KE|20GE|20KO|20GO|20SA|20ZA|20SI|20ZI|20SU|20ZU|20SE"),
   (0x305C, "20ZE|20SO|20ZO|20TA|20DA|20TI|20DI|20SMALL TU|21|20DU|20TE|20DE|20TO|20DO|20NA|20NI"),
   (0x306C, "20NU|20NE|20NO|20HA|20BA|20PA|20HI|20BI|20PI|20HU|20BU|20PU|20HE|20BE|20PE|20HO|20BO"),
   (0x307D, "20PO|20MA|20MI|20MU|20ME|20MO|20SMALL YA|21|20SMALL YU|21|20SMALL YO|21|20RA|20RI"),
   (0x308B, "20RU|20RE|20RO|20SMALL WA|21|20WI|20WE|20WO|20N|20VU|20SMALL KA|30KE"),
   (0x3099, "00COMBINING KATAKANA-HIRAGANA VOICED SOUND MARK|22SEMI-VOICED"),
   (0x309B, "02KATAKANA-HIRAGANA VOICED|12SEMI-VOICED|01HIRAGANA ITERATION|12VOICED"),
   (0x309F, "10DIGRAPH YORI|00KATAKANA-HIRAGANA DOUBLE HYPHEN|00KATAKANA LETTER SMALL A|21"),
   (0x30A3, "20SMALL I|21|20SMALL U|21|20SMALL E|21|20SMALL O|21|20KA|20GA|20KI|20GI|20KU|20GU"),
   (0x30B1, "20KE|20GE|20KO|20GO|20SA|20ZA|20SI|20ZI|20SU|20ZU|20SE|20ZE|20SO|20ZO|20TA|20DA|20TI"),
   (0x30C2, "20DI|20SMALL TU|21|20DU|20TE|20DE|20TO|20DO|20NA|20NI|20NU|20NE|20NO|20HA|20BA|20PA"),
   (0x30D2, "20HI|20BI|20PI|20HU|20BU|20PU|20HE|20BE|20PE|20HO|20BO|20PO|20MA|20MI|20MU|20ME|20MO"),
   (0x30E3, "20SMALL YA|21|20SMALL YU|21|20SMALL YO|21|20RA|20RI|20RU|20RE|20RO|20SMALL WA|21"),
   (0x30F0, "20WI|20WE|20WO|20N|20VU|20SMALL KA|30KE|20VA|20VI|20VE|20VO|10MIDDLE DOT"),
   (0x30FC, "00KATAKANA-HIRAGANA PROLONGED SOUND MARK|01KATAKANA ITERATION|12VOICED"),
   (0x30FF, "10DIGRAPH KOTO"),
   (0xFF01, "00FULLWIDTH EXCLAMATION MARK|11QUOTATION|10NUMBER SIGN|11DOLLAR|11PERCENT"),
   (0xFF06, "10AMPERSAND|10APOSTROPHE|10LEFT PARENTHESIS|11RIGHT|10ASTERISK|10PLUS SIGN|10COMMA"),
   (0xFF0D, "10HYPHEN-MINUS|10FULL STOP|10SOLIDUS|10DIGIT ZERO|20ONE|20TWO|20THREE|20FOUR|20FIVE"),
   (0xFF16, "20SIX|20SEVEN|20EIGHT|20NINE|10COLON|10SEMICOLON|10LESS-THAN SIGN|11EQUALS"),
   (0xFF1E, "11GREATER-THAN|10QUESTION MARK|10COMMERCIAL AT|10LATIN CAPITAL LETTER A|40B|40C|40D"),
   (0xFF25, "40E|40F|40G|40H|40I|40J|40K|40L|40M|40N|40O|40P|40Q|40R|40S|40T|40U|40V|40W|40X|40Y"),
   (0xFF3A, "40Z|10LEFT SQUARE BRACKET|10REVERSE SOLIDUS|10RIGHT SQUARE BRACKET"),
   (0xFF3E, "10CIRCUMFLEX ACCENT|10LOW LINE|10GRAVE ACCENT|10LATIN SMALL LETTER A|40B|40C|40D|40E"),
   (0xFF46, "40F|40G|40H|40I|40J|40K|40L|40M|40N|40O|40P|40Q|40R|40S|40T|40U|40V|40W|40X|40Y|40Z"),
   (0xFF5B, "10LEFT CURLY BRACKET|10VERTICAL LINE|10RIGHT CURLY BRACKET|10TILDE"),
   (0xFF5F, "10LEFT WHITE PARENTHESIS|12RIGHT|00HALFWIDTH IDEOGRAPHIC FULL STOP"),
   (0xFF62, "10LEFT CORNER BRACKET|12RIGHT|10IDEOGRAPHIC COMMA|10KATAKANA MIDDLE DOT|20LETTER WO"),
   (0xFF67, "30SMALL A|40I|40U|40E|40O|40YA|40YU|40YO|40TU"),
   (0xFF70, "10KATAKANA-HIRAGANA PROLONGED SOUND MARK|10KATAKANA LETTER A|30I|30U|30E|30O|30KA"),
   (0xFF77, "30KI|30KU|30KE|30KO|30SA|30SI|30SU|30SE|30SO|30TA|30TI|30TU|30TE|30TO|30NA|30NI|30NU"),
   (0xFF88, "30NE|30NO|30HA|30HI|30HU|30HE|30HO|30MA|30MI|30MU|30ME|30MO|30YA|30YU|30YO|30RA|30RI"),
   (0xFF99, "30RU|30RE|30RO|30WA|30N|20VOICED SOUND MARK|22SEMI-VOICED|10HANGUL FILLER"),
   (0xFFA1, "20LETTER KIYEOK|30SSANGKIYEOK|30KIYEOK-SIOS|30NIEUN|30NIEUN-CIEUC|30NIEUN-HIEUH"),
   (0xFFA7, "30TIKEUT|30SSANGTIKEUT|30RIEUL|30RIEUL-KIYEOK|30RIEUL-MIEUM|30RIEUL-PIEUP"),
   (0xFFAD, "30RIEUL-SIOS|30RIEUL-THIEUTH|30RIEUL-PHIEUPH|30RIEUL-HIEUH|30MIEUM|30PIEUP"),
   (0xFFB3, "30SSANGPIEUP|30PIEUP-SIOS|30SIOS|30SSANGSIOS|30IEUNG|30CIEUC|30SSANGCIEUC|30CHIEUCH"),
   (0xFFBB, "30KHIEUKH|30THIEUTH|30PHIEUPH|30HIEUH"),
   (0xFFC2, "30A|30AE|30YA|30YAE|30EO|30E"),
   (0xFFCA, "30YEO|30YE|30O|30WA|30WAE|30OE"),
   (0xFFD2, "30YO|30U|30WEO|30WE|30WI|30YU"),
   (0xFFDA, "30EU|30YI|30I"),
   (0xFFE0, "00FULLWIDTH CENT SIGN|11POUND|11NOT|10MACRON|10BROKEN BAR|10YEN SIGN|11WON"),
   (0xFFE8, "00HALFWIDTH FORMS LIGHT VERTICAL|10LEFTWARDS ARROW|11UPWARDS|11RIGHTWARDS"),
   (0xFFEC, "11DOWNWARDS|10BLACK SQUARE|10WHITE CIRCLE"),
   (0x10400, "00DESERET CAPITAL LETTER LONG I|40E|40A|40AH|40O|40OO|30SHORT I|40E|40A|40AH|40O"),
   (0x1040B, "40OO|30AY|30OW|30WU|30YEE|30H|30PEE|30BEE|30TEE|30DEE|30CHEE|30JEE|30KAY|30GAY|30EF"),
   (0x1041A, "30VEE|30ETH|30THEE|30ES|30ZEE|30ESH|30ZHEE|30ER|30EL|30EM|30EN|30ENG|30OI|30EW"),
   (0x10428, "10SMALL LETTER LONG I|40E|40A|40AH|40O|40OO|30SHORT I|40E|40A|40AH|40O|40OO|30AY"),
   (0x10435, "30OW|30WU|30YEE|30H|30PEE|30BEE|30TEE|30DEE|30CHEE|30JEE|30KAY|30GAY|30EF|30VEE"),
   (0x10443, "30ETH|30THEE|30ES|30ZEE|30ESH|30ZHEE|30ER|30EL|30EM|30EN|30ENG|30OI|30EW"),
   (0x1F300, "00CYCLONE|00FOGGY|00CLOSED UMBRELLA|00NIGHT WITH STARS|00SUNRISE OVER MOUNTAINS|10"),
   (0x1F306, "00CITYSCAPE AT DUSK|00SUNSET OVER BUILDINGS|00RAINBOW|00BRIDGE AT NIGHT"),
   (0x1F30A, "00WATER WAVE|00VOLCANO|00MILKY WAY|00EARTH GLOBE EUROPE-AFRICA|20AMERICAS"),
   (0x1F30F, "20ASIA-AUSTRALIA|00GLOBE WITH MERIDIANS|00NEW MOON SYMBOL|02WAXING CRESCENT"),
   (0x1F313, "02FIRST QUARTER|02WAXING GIBBOUS|02FULL|02WANING GIBBOUS|02LAST QUARTER"),
   (0x1F318, "02WANING CRESCENT|00CRESCENT MOON|00NEW MOON WITH FACE|03FIRST QUARTER|04LAST"),
   (0x1F31D, "03FULL|02SUN|00GLOWING STAR|01SHOOTING|00THERMOMETER|00BLACK DROPLET|00WHITE SUN"),
   (0x1F324, "20WITH SMALL CLOUD|21BEHIND|40WITH RAIN|03|20SNOW|20LIGHTNING|20TORNADO|00FOG"),
   (0x1F32C, "00WIND BLOWING FACE|00HOT DOG|00TACO|00BURRITO|00CHESTNUT|00SEEDLING"),
   (0x1F332, "00EVERGREEN TREE|01DECIDUOUS|01PALM|00CACTUS|00HOT PEPPER|00TULIP|00CHERRY BLOSSOM"),
   (0x1F339, "00ROSE|00HIBISCUS|00SUNFLOWER|00BLOSSOM|00EAR OF MAIZE|20RICE|00HERB"),
   (0x1F340, "00FOUR LEAF CLOVER|00MAPLE LEAF|01FALLEN|00LEAF FLUTTERING IN WIND|00MUSHROOM"),
   (0x1F345, "00TOMATO|00AUBERGINE|00GRAPES|00MELON|00WATERMELON|00TANGERINE|00LEMON|00BANANA"),
   (0x1F34D, "00PINEAPPLE|00RED APPLE|01GREEN|00PEAR|00PEACH|00CHERRIES|00STRAWBERRY|00HAMBURGER"),
   (0x1F355, "00SLICE OF PIZZA|00MEAT ON BONE|00POULTRY LEG|00RICE CRACKER|10BALL|00COOKED RICE"),
   (0x1F35B, "01CURRY AND|00STEAMING BOWL|00SPAGHETTI|00BREAD|00FRENCH FRIES"),
   (0x1F360, "00ROASTED SWEET POTATO|00DANGO|00ODEN|00SUSHI|00FRIED SHRIMP"),
   (0x1F365, "00FISH CAKE WITH SWIRL DESIGN|00SOFT ICE CREAM|00SHAVED ICE|00ICE CREAM|00DOUGHNUT"),
   (0x1F36A, "00COOKIE|00CHOCOLATE BAR|00CANDY|00LOLLIPOP|00CUSTARD|00HONEY POT|00SHORTCAKE"),
   (0x1F371, "00BENTO BOX|00POT OF FOOD|00COOKING|00FORK AND KNIFE|00TEACUP WITHOUT HANDLE"),
   (0x1F376, "00SAKE BOTTLE AND CUP|00WINE GLASS|01COCKTAIL|00TROPICAL DRINK|00BEER MUG"),
   (0x1F37B, "00CLINKING BEER MUGS|00BABY BOTTLE|00FORK AND KNIFE WITH PLATE"),
   (0x1F37E, "00BOTTLE WITH POPPING CORK|00POPCORN|00RIBBON|00WRAPPED PRESENT|00BIRTHDAY CAKE"),
   (0x1F383, "00JACK-O-LANTERN|00CHRISTMAS TREE|00FATHER CHRISTMAS|00FIREWORKS"),
   (0x1F387, "00FIREWORK SPARKLER|00BALLOON|00PARTY POPPER|00CONFETTI BALL|00TANABATA TREE"),
   (0x1F38C, "00CROSSED FLAGS|00PINE DECORATION|00JAPANESE DOLLS|00CARP STREAMER|00WIND CHIME"),
   (0x1F391, "00MOON VIEWING CEREMONY|00SCHOOL SATCHEL|00GRADUATION CAP"),
   (0x1F394, "00HEART WITH TIP ON THE LEFT|00BOUQUET OF FLOWERS|00MILITARY MEDAL"),
   (0x1F397, "00REMINDER RIBBON|00MUSICAL KEYBOARD WITH JACKS|00STUDIO MICROPHONE|00LEVEL SLIDER"),
   (0x1F39B, "00CONTROL KNOBS|00BEAMED ASCENDING MUSICAL NOTES|12DESCENDING|00FILM FRAMES"),
   (0x1F39F, "00ADMISSION TICKETS|00CAROUSEL HORSE|00FERRIS WHEEL|00ROLLER COASTER"),
   (0x1F3A3, "00FISHING POLE AND FISH|00MICROPHONE|00MOVIE CAMERA|00CINEMA|00HEADPHONE"),
   (0x1F3A8, "00ARTIST PALETTE|00TOP HAT|00CIRCUS TENT|00TICKET|00CLAPPER BOARD|00PERFORMING ARTS"),
   (0x1F3AE, "00VIDEO GAME|00DIRECT HIT|00SLOT MACHINE|00BILLIARDS|00GAME DIE|00BOWLING"),
   (0x1F3B4, "00FLOWER PLAYING CARDS|00MUSICAL NOTE|00MULTIPLE MUSICAL NOTES|00SAXOPHONE|00GUITAR"),
   (0x1F3B9, "00MUSICAL KEYBOARD|00TRUMPET|00VIOLIN|00MUSICAL SCORE|00RUNNING SHIRT WITH SASH"),
   (0x1F3BE, "00TENNIS RACQUET AND BALL|00SKI AND SKI BOOT|00BASKETBALL AND HOOP|00CHEQUERED FLAG"),
   (0x1F3C2, "00SNOWBOARDER|00RUNNER|00SURFER|00SPORTS MEDAL|00TROPHY|00HORSE RACING"),
   (0x1F3C8, "00AMERICAN FOOTBALL|01RUGBY|00SWIMMER|00WEIGHT LIFTER|00GOLFER|00RACING MOTORCYCLE"),
   (0x1F3CE, "10CAR|00CRICKET BAT AND BALL|00VOLLEYBALL|00FIELD HOCKEY STICK AND BALL"),
   (0x1F3D2, "00ICE HOCKEY STICK AND PUCK|00TABLE TENNIS PADDLE AND BALL|00SNOW CAPPED MOUNTAIN"),
   (0x1F3D5, "00CAMPING|00BEACH WITH UMBRELLA|00BUILDING CONSTRUCTION|00HOUSE BUILDINGS"),
   (0x1F3D9, "00CITYSCAPE|00DERELICT HOUSE BUILDING|01CLASSICAL|00DESERT|10ISLAND|00NATIONAL PARK"),
   (0x1F3DF, "00STADIUM|00HOUSE BUILDING|10WITH GARDEN|00OFFICE BUILDING|00JAPANESE POST OFFICE"),
   (0x1F3E4, "02EUROPEAN|00HOSPITAL|00BANK|00AUTOMATED TELLER MACHINE|00HOTEL|01LOVE"),
   (0x1F3EA, "00CONVENIENCE STORE|00SCHOOL|00DEPARTMENT STORE|00FACTORY|00IZAKAYA LANTERN"),
   (0x1F3EF, "00JAPANESE CASTLE|01EUROPEAN|00WHITE PENNANT|01BLACK|00WAVING WHITE FLAG|11BLACK"),
   (0x1F3F5, "00ROSETTE|01BLACK|00LABEL|00BADMINTON RACQUET AND SHUTTLECOCK|00BOW AND ARROW"),
   (0x1F3FA, "00AMPHORA|00EMOJI MODIFIER FITZPATRICK TYPE-1-2|30TYPE-3|30TYPE-4|30TYPE-5|30TYPE-6"),
   (0x1F400, "00RAT|00MOUSE|00OX|00WATER BUFFALO|00COW|00TIGER|00LEOPARD|00RABBIT|00CAT|00DRAGON"),
   (0x1F40A, "00CROCODILE|00WHALE|00SNAIL|00SNAKE|00HORSE|00RAM|00GOAT|00SHEEP|00MONKEY|00ROOSTER"),
   (0x1F414, "00CHICKEN|00DOG|00PIG|00BOAR|00ELEPHANT|00OCTOPUS|00SPIRAL SHELL|00BUG|00ANT"),
   (0x1F41D, "00HONEYBEE|00LADY BEETLE|00FISH|01TROPICAL|00BLOWFISH|00TURTLE|00HATCHING CHICK"),
   (0x1F424, "01BABY|02FRONT-FACING|00BIRD|00PENGUIN|00KOALA|00POODLE|00DROMEDARY CAMEL"),
   (0x1F42B, "01BACTRIAN|00DOLPHIN|00MOUSE FACE|01COW|01TIGER|01RABBIT|01CAT|01DRAGON"),
   (0x1F433, "00SPOUTING WHALE|00HORSE FACE|01MONKEY|01DOG|01PIG|01FROG|01HAMSTER|01WOLF|01BEAR"),
   (0x1F43C, "01PANDA|00PIG NOSE|00PAW PRINTS|00CHIPMUNK|00EYES|00EYE|00EAR|00NOSE|00MOUTH"),
   (0x1F445, "00TONGUE|00WHITE UP POINTING BACKHAND INDEX|13DOWN|13LEFT|13RIGHT"),
   (0x1F44A, "00FISTED HAND SIGN|02WAVING|02OK|01THUMBS UP|11DOWN|01CLAPPING HANDS|02OPEN|00CROWN"),
   (0x1F452, "00WOMANS HAT|00EYEGLASSES|00NECKTIE|00T-SHIRT|00JEANS|00DRESS|00KIMONO|00BIKINI"),
   (0x1F45A, "00WOMANS CLOTHES|00PURSE|00HANDBAG|00POUCH|00MANS SHOE|01ATHLETIC|01HIGH-HEELED"),
   (0x1F461, "00WOMANS SANDAL|10BOOTS|00FOOTPRINTS|00BUST IN SILHOUETTE|02BUSTS|00BOY|00GIRL"),
   (0x1F468, "00MAN|00WOMAN|00FAMILY|00MAN AND WOMAN HOLDING HANDS|02TWO MEN|12WOMEN"),
   (0x1F46E, "00POLICE OFFICER|00WOMAN WITH BUNNY EARS|00BRIDE WITH VEIL|00PERSON WITH BLOND HAIR"),
   (0x1F472, "00MAN WITH GUA PI MAO|20TURBAN|00OLDER MAN|10WOMAN|00BABY|00CONSTRUCTION WORKER"),
   (0x1F478, "00PRINCESS|00JAPANESE OGRE|10GOBLIN|00GHOST|00BABY ANGEL|00EXTRATERRESTRIAL ALIEN"),
   (0x1F47E, "00ALIEN MONSTER|00IMP|00SKULL|00INFORMATION DESK PERSON|00GUARDSMAN|00DANCER"),
   (0x1F484, "00LIPSTICK|00NAIL POLISH|00FACE MASSAGE|00HAIRCUT|00BARBER POLE|00SYRINGE|00PILL"),
   (0x1F48B, "00KISS MARK|00LOVE LETTER|00RING|00GEM STONE|00KISS|00BOUQUET|00COUPLE WITH HEART"),
   (0x1F492, "00WEDDING|00BEATING HEART|01BROKEN|00TWO HEARTS|00SPARKLING HEART|01GROWING"),
   (0x1F498, "00HEART WITH ARROW|00BLUE HEART|01GREEN|01YELLOW|01PURPLE|00HEART WITH RIBBON"),
   (0x1F49E, "00REVOLVING HEARTS|00HEART DECORATION|00DIAMOND SHAPE WITH A DOT INSIDE"),
   (0x1F4A1, "00ELECTRIC LIGHT BULB|00ANGER SYMBOL|00BOMB|00SLEEPING SYMBOL|01COLLISION"),
   (0x1F4A6, "01SPLASHING SWEAT|00DROPLET|00DASH SYMBOL|00PILE OF POO|00FLEXED BICEPS"),
   (0x1F4AB, "00DIZZY SYMBOL|00SPEECH BALLOON|01THOUGHT|00WHITE FLOWER|00HUNDRED POINTS SYMBOL"),
   (0x1F4B0, "00MONEY BAG|00CURRENCY EXCHANGE|00HEAVY DOLLAR SIGN|00CREDIT CARD"),
   (0x1F4B4, "00BANKNOTE WITH YEN SIGN|21DOLLAR|21EURO|21POUND|00MONEY WITH WINGS"),
   (0x1F4B9, "00CHART WITH UPWARDS TREND AND YEN SIGN|00SEAT|00PERSONAL COMPUTER|00BRIEFCASE"),
   (0x1F4BD, "00MINIDISC|00FLOPPY DISK|00OPTICAL DISC|00DVD|00FILE FOLDER|02OPEN|00PAGE WITH CURL"),
   (0x1F4C4, "10FACING UP|00CALENDAR|01TEAR-OFF|00CARD INDEX|00CHART WITH UPWARDS TREND"),
   (0x1F4C9, "21DOWNWARDS|00BAR CHART|00CLIPBOARD|00PUSHPIN|01ROUND|00PAPERCLIP|00STRAIGHT RULER"),
   (0x1F4D0, "01TRIANGULAR|00BOOKMARK TABS|00LEDGER|00NOTEBOOK|10WITH DECORATIVE COVER"),
   (0x1F4D5, "00CLOSED BOOK|01OPEN|01GREEN|01BLUE|01ORANGE|00BOOKS|00NAME BADGE|00SCROLL|00MEMO"),
   (0x1F4DE, "00TELEPHONE RECEIVER|00PAGER|00FAX MACHINE|00SATELLITE ANTENNA"),
   (0x1F4E2, "00PUBLIC ADDRESS LOUDSPEAKER|00CHEERING MEGAPHONE|00OUTBOX TRAY|01INBOX|00PACKAGE"),
   (0x1F4E7, "00E-MAIL SYMBOL|00INCOMING ENVELOPE|00ENVELOPE WITH DOWNWARDS ARROW ABOVE"),
   (0x1F4EA, "00CLOSED MAILBOX WITH LOWERED FLAG|31RAISED|04OPEN|31LOWERED|00POSTBOX"),
   (0x1F4EF, "00POSTAL HORN|00NEWSPAPER|00MOBILE PHONE|20WITH RIGHTWARDS ARROW AT LEFT"),
   (0x1F4F3, "00VIBRATION MODE|00MOBILE PHONE OFF|00NO MOBILE PHONES|00ANTENNA WITH BARS|00CAMERA"),
   (0x1F4F8, "10WITH FLASH|00VIDEO CAMERA|00TELEVISION|00RADIO|00VIDEOCASSETTE|00FILM PROJECTOR"),
   (0x1F4FE, "00PORTABLE STEREO|00PRAYER BEADS|00TWISTED RIGHTWARDS ARROWS"),
   (0x1F501, "01CLOCKWISE RIGHTWARDS AND LEFTWARDS OPEN CIRCLE|70WITH CIRCLED ONE OVERLAY"),
   (0x1F503, "10DOWNWARDS AND UPWARDS OPEN CIRCLE ARROWS|06ANTICLOCKWISE|00LOW BRIGHTNESS SYMBOL"),
   (0x1F506, "02HIGH|00SPEAKER WITH CANCELLATION STROKE|10|10WITH ONE SOUND WAVE"),
   (0x1F50A, "20THREE SOUND WAVES|00BATTERY|00ELECTRIC PLUG|00LEFT-POINTING MAGNIFYING GLASS"),
   (0x1F50E, "02RIGHT-POINTING|00LOCK WITH INK PEN|00CLOSED LOCK WITH KEY|01|00LOCK|01OPEN|00BELL"),
   (0x1F515, "10WITH CANCELLATION STROKE|00BOOKMARK|00LINK SYMBOL|00RADIO BUTTON"),
   (0x1F519, "00BACK WITH LEFTWARDS ARROW ABOVE|04END|02ON WITH EXCLAMATION MARK WITH LEFT RIGHT"),
   (0x1F51C, "02SOON WITH RIGHTWARDS|02TOP WITH UPWARDS|00NO ONE UNDER EIGHTEEN SYMBOL"),
   (0x1F51F, "00KEYCAP TEN|00INPUT SYMBOL FOR LATIN CAPITAL LETTERS|41SMALL|30NUMBERS|30SYMBOLS"),
   (0x1F524, "30LATIN LETTERS|00FIRE|00ELECTRIC TORCH|00WRENCH|00HAMMER|00NUT AND BOLT|00HOCHO"),
   (0x1F52B, "00PISTOL|00MICROSCOPE|00TELESCOPE|00CRYSTAL BALL|00SIX POINTED STAR WITH MIDDLE DOT"),
   (0x1F530, "00JAPANESE SYMBOL FOR BEGINNER|00TRIDENT EMBLEM|00BLACK SQUARE BUTTON|02WHITE"),
   (0x1F534, "00LARGE RED CIRCLE|11BLUE|10ORANGE DIAMOND|11BLUE|01SMALL ORANGE|11BLUE"),
   (0x1F53A, "00UP-POINTING RED TRIANGLE|02DOWN-POINTING|02UP-POINTING SMALL|03DOWN-POINTING"),
   (0x1F53E, "00LOWER RIGHT SHADOWED WHITE CIRCLE|04UPPER|00CIRCLED CROSS POMMEE"),
   (0x1F541, "00CROSS POMMEE WITH HALF-CIRCLE BELOW|20|00NOTCHED LEFT SEMICIRCLE WITH THREE DOTS"),
   (0x1F544, "14RIGHT|00SYMBOL FOR MARKS CHAPTER|00WHITE LATIN CROSS|02HEAVY|01CELTIC|00OM SYMBOL"),
   (0x1F54A, "00DOVE OF PEACE|00KAABA|00MOSQUE|00SYNAGOGUE|00MENORAH WITH NINE BRANCHES"),
   (0x1F54F, "00BOWL OF HYGIEIA|00CLOCK FACE ONE OCLOCK|21TWO|21THREE|21FOUR|21FIVE|21SIX|21SEVEN"),
   (0x1F557, "21EIGHT|21NINE|21TEN|21ELEVEN|21TWELVE|20ONE-THIRTY|20TWO-THIRTY|20THREE-THIRTY"),
   (0x1F55F, "20FOUR-THIRTY|20FIVE-THIRTY|20SIX-THIRTY|20SEVEN-THIRTY|20EIGHT-THIRTY"),
   (0x1F564, "20NINE-THIRTY|20TEN-THIRTY|20ELEVEN-THIRTY|20TWELVE-THIRTY|00RIGHT SPEAKER"),
   (0x1F569, "20WITH ONE SOUND WAVE|30THREE SOUND WAVES|00BULLHORN|10WITH SOUND WAVES"),
   (0x1F56D, "00RINGING BELL|00BOOK|00CANDLE|00MANTELPIECE CLOCK|00BLACK SKULL AND CROSSBONES"),
   (0x1F572, "00NO PIRACY|00HOLE|00MAN IN BUSINESS SUIT LEVITATING|00SLEUTH OR SPY"),
   (0x1F576, "00DARK SUNGLASSES|00SPIDER|10WEB|00JOYSTICK|00MAN DANCING"),
   (0x1F57B, "00LEFT HAND TELEPHONE RECEIVER|00TELEPHONE RECEIVER WITH PAGE"),
   (0x1F57D, "00RIGHT HAND TELEPHONE RECEIVER|00WHITE TOUCHTONE TELEPHONE|02BLACK"),
   (0x1F580, "00TELEPHONE ON TOP OF MODEM|00CLAMSHELL MOBILE PHONE|00BACK OF ENVELOPE|01STAMPED"),
   (0x1F584, "00ENVELOPE WITH LIGHTNING|00FLYING ENVELOPE|01PEN OVER STAMPED|00LINKED PAPERCLIPS"),
   (0x1F588, "00BLACK PUSHPIN|00LOWER LEFT PENCIL|20BALLPOINT PEN|21FOUNTAIN|20PAINTBRUSH"),
   (0x1F58D, "20CRAYON|00LEFT WRITING HAND|00TURNED OK HAND SIGN"),
   (0x1F590, "00RAISED HAND WITH FINGERS SPLAYED|05REVERSED|10THUMBS UP SIGN|21DOWN"),
   (0x1F594, "10VICTORY HAND|10HAND WITH MIDDLE FINGER EXTENDED"),
   (0x1F596, "00RAISED HAND WITH PART BETWEEN MIDDLE AND RING FINGERS"),
   (0x1F597, "00WHITE DOWN POINTING LEFT HAND INDEX|01SIDEWAYS WHITE LEFT POINTING|22RIGHT"),
   (0x1F59A, "12BLACK LEFT|22RIGHT|01BLACK LEFT POINTING BACKHAND|13RIGHT"),
   (0x1F59E, "01SIDEWAYS WHITE UP POINTING|22DOWN|12BLACK UP|22DOWN|01BLACK UP POINTING BACKHAND"),
   (0x1F5A3, "13DOWN|10HEART|00DESKTOP COMPUTER|00KEYBOARD AND MOUSE|00THREE NETWORKED COMPUTERS"),
   (0x1F5A8, "00PRINTER|00POCKET CALCULATOR|00BLACK HARD SHELL FLOPPY DISK|04WHITE|03SOFT"),
   (0x1F5AD, "00TAPE CARTRIDGE|00WIRED KEYBOARD|00ONE BUTTON MOUSE|02TWO|02THREE|00TRACKBALL"),
   (0x1F5B3, "00OLD PERSONAL COMPUTER|00HARD DISK|00SCREEN|00PRINTER ICON|01FAX|01OPTICAL DISC"),
   (0x1F5B9, "00DOCUMENT WITH TEXT|30AND PICTURE|21|02FRAME|20TILES|20AN X|00BLACK FOLDER|01"),
   (0x1F5C1, "01OPEN|00CARD INDEX DIVIDERS|10FILE BOX|00FILE CABINET|00EMPTY NOTE|20PAGE|20PAD"),
   (0x1F5C8, "00NOTE|10PAGE|10PAD|00EMPTY DOCUMENT|10PAGE|10PAGES|00DOCUMENT|00PAGE|00PAGES"),
   (0x1F5D1, "00WASTEBASKET|00SPIRAL NOTE PAD|11CALENDAR|00DESKTOP WINDOW|00MINIMIZE|00MAXIMIZE"),
   (0x1F5D7, "00OVERLAP|00CLOCKWISE RIGHT AND LEFT SEMICIRCLE ARROWS|00CANCELLATION X"),
   (0x1F5DA, "00INCREASE FONT SIZE SYMBOL|03DECREASE|00COMPRESSION|00OLD KEY"),
   (0x1F5DE, "00ROLLED-UP NEWSPAPER|00PAGE WITH CIRCLED TEXT|00STOCK CHART|00DAGGER KNIFE|00LIPS"),
   (0x1F5E3, "00SPEAKING HEAD IN SILHOUETTE|00THREE RAYS ABOVE|20BELOW|20LEFT|20RIGHT"),
   (0x1F5E8, "00LEFT SPEECH BUBBLE|02RIGHT|00TWO SPEECH BUBBLES|02THREE|00LEFT THOUGHT BUBBLE"),
   (0x1F5ED, "02RIGHT|01LEFT ANGER|02RIGHT|01MOOD|02LIGHTNING|20|00BALLOT BOX WITH BALLOT"),
   (0x1F5F4, "10SCRIPT X|12BOX WITH|12BOLD|13BOX WITH|00LIGHT CHECK MARK"),
   (0x1F5F9, "00BALLOT BOX WITH BOLD CHECK|00WORLD MAP|00MOUNT FUJI|00TOKYO TOWER"),
   (0x1F5FD, "00STATUE OF LIBERTY|00SILHOUETTE OF JAPAN|00MOYAI|00GRINNING FACE"),
   (0x1F601, "20WITH SMILING EYES|00FACE WITH TEARS OF JOY|00SMILING FACE WITH OPEN MOUTH"),
   (0x1F604, "50AND SMILING EYES|60COLD SWEAT|60TIGHTLY-CLOSED EYES|30HALO|30HORNS|00WINKING FACE"),
   (0x1F60A, "00SMILING FACE WITH SMILING EYES|00FACE SAVOURING DELICIOUS FOOD|00RELIEVED FACE"),
   (0x1F60D, "00SMILING FACE WITH HEART-SHAPED EYES|30SUNGLASSES|00SMIRKING FACE|01NEUTRAL"),
   (0x1F611, "01EXPRESSIONLESS|01UNAMUSED|00FACE WITH COLD SWEAT|00PENSIVE FACE|01CONFUSED"),
   (0x1F616, "01CONFOUNDED|01KISSING|00FACE THROWING A KISS|00KISSING FACE WITH SMILING EYES"),
   (0x1F61A, "31CLOSED|00FACE WITH STUCK-OUT TONGUE|40AND WINKING EYE|50TIGHTLY-CLOSED EYES"),
   (0x1F61E, "00DISAPPOINTED FACE|01WORRIED|01ANGRY|01POUTING|01CRYING|01PERSEVERING"),
   (0x1F624, "00FACE WITH LOOK OF TRIUMPH|00DISAPPOINTED BUT RELIEVED FACE"),
   (0x1F626, "00FROWNING FACE WITH OPEN MOUTH|00ANGUISHED FACE|01FEARFUL|01WEARY|01SLEEPY|01TIRED"),
   (0x1F62C, "01GRIMACING|01LOUDLY CRYING|00FACE WITH OPEN MOUTH|00HUSHED FACE"),
   (0x1F630, "00FACE WITH OPEN MOUTH AND COLD SWEAT|10SCREAMING IN FEAR|00ASTONISHED FACE"),
   (0x1F633, "01FLUSHED|01SLEEPING|01DIZZY|00FACE WITHOUT MOUTH|10WITH MEDICAL MASK"),
   (0x1F638, "00GRINNING CAT FACE WITH SMILING EYES|00CAT FACE WITH TEARS OF JOY"),
   (0x1F63A, "00SMILING CAT FACE WITH OPEN MOUTH|40HEART-SHAPED EYES|00CAT FACE WITH WRY SMILE"),
   (0x1F63D, "00KISSING CAT FACE WITH CLOSED EYES|00POUTING CAT FACE|02CRYING|02WEARY"),
   (0x1F641, "01SLIGHTLY FROWNING|11SMILING|01UPSIDE-DOWN|00FACE WITH ROLLING EYES"),
   (0x1F645, "20NO GOOD GESTURE|21OK|00PERSON BOWING DEEPLY|00SEE-NO-EVIL MONKEY|01HEAR-NO-EVIL"),
   (0x1F64A, "01SPEAK-NO-EVIL|00HAPPY PERSON RAISING ONE HAND"),
   (0x1F64C, "00PERSON RAISING BOTH HANDS IN CELEBRATION|10FROWNING|10WITH POUTING FACE"),
   (0x1F64F, "20FOLDED HANDS"),
   (0x1F680, "00ROCKET|00HELICOPTER|00STEAM LOCOMOTIVE|00RAILWAY CAR|00HIGH-SPEED TRAIN"),
   (0x1F685, "20WITH BULLET NOSE|00TRAIN|00METRO|00LIGHT RAIL|00STATION|00TRAM|10CAR|00BUS"),
   (0x1F68D, "01ONCOMING|00TROLLEYBUS|00BUS STOP|00MINIBUS|00AMBULANCE|00FIRE ENGINE|00POLICE CAR"),
   (0x1F694, "02ONCOMING|00TAXI|01ONCOMING|00AUTOMOBILE|01ONCOMING|00RECREATIONAL VEHICLE"),
   (0x1F69A, "00DELIVERY TRUCK|00ARTICULATED LORRY|00TRACTOR|00MONORAIL|00MOUNTAIN RAILWAY"),
   (0x1F69F, "01SUSPENSION|00MOUNTAIN CABLEWAY|00AERIAL TRAMWAY|00SHIP|00ROWBOAT|00SPEEDBOAT"),
   (0x1F6A5, "00HORIZONTAL TRAFFIC LIGHT|02VERTICAL|00CONSTRUCTION SIGN"),
   (0x1F6A8, "00POLICE CARS REVOLVING LIGHT|00TRIANGULAR FLAG ON POST|00DOOR|00NO ENTRY SIGN"),
   (0x1F6AC, "00SMOKING SYMBOL|02NO|01PUT LITTER IN ITS PLACE|01DO NOT LITTER|01POTABLE WATER"),
   (0x1F6B1, "02NON-POTABLE|00BICYCLE|00NO BICYCLES|00BICYCLIST|01MOUNTAIN|00PEDESTRIAN"),
   (0x1F6B7, "00NO PEDESTRIANS|00CHILDREN CROSSING|00MENS SYMBOL|01WOMENS|00RESTROOM"),
   (0x1F6BC, "00BABY SYMBOL|00TOILET|00WATER CLOSET|00SHOWER|00BATH|00BATHTUB|00PASSPORT CONTROL"),
   (0x1F6C3, "00CUSTOMS|00BAGGAGE CLAIM|00LEFT LUGGAGE|00TRIANGLE WITH ROUNDED CORNERS"),
   (0x1F6C7, "00PROHIBITED SIGN|00CIRCLED INFORMATION SOURCE|00BOYS SYMBOL|01GIRLS"),
   (0x1F6CB, "00COUCH AND LAMP|00SLEEPING ACCOMMODATION|00SHOPPING BAGS|00BELLHOP BELL|00BED"),
   (0x1F6D0, "00PLACE OF WORSHIP|00OCTAGONAL SIGN|00SHOPPING TROLLEY|00STUPA|00PAGODA"),
   (0x1F6D5, "00HINDU TEMPLE|00HUT|00ELEVATOR"),
   (0x1F6DD, "00PLAYGROUND SLIDE|00WHEEL|00RING BUOY|00HAMMER AND WRENCH|00SHIELD|00OIL DRUM"),
   (0x1F6E3, "00MOTORWAY|00RAILWAY TRACK|00MOTOR BOAT|00UP-POINTING MILITARY AIRPLANE|11|11SMALL"),
   (0x1F6E9, "02|01NORTHEAST-POINTING|00AIRPLANE DEPARTURE|10ARRIVING"),
   (0x1F6F0, "00SATELLITE|00ONCOMING FIRE ENGINE|00DIESEL LOCOMOTIVE|00PASSENGER SHIP|00SCOOTER"),
   (0x1F6F5, "01MOTOR|00CANOE|00SLED|00FLYING SAUCER|00SKATEBOARD|00AUTO RICKSHAW|00PICKUP TRUCK"),
   (0x1F6FC, "00ROLLER SKATE"),
   (0x1F900, "00CIRCLED CROSS FORMEE WITH FOUR DOTS|41TWO|30|00LEFT HALF CIRCLE WITH FOUR DOTS"),
   (0x1F904, "41THREE|41TWO|40DOT|30|00DOWNWARD FACING HOOK|21NOTCHED|20HOOK WITH DOT|23NOTCHED"),
   (0x1F90C, "00PINCHED FINGERS|00WHITE HEART|01BROWN|00PINCHING HAND|00ZIPPER-MOUTH FACE"),
   (0x1F911, "01MONEY-MOUTH|00FACE WITH THERMOMETER|00NERD FACE|01THINKING"),
   (0x1F915, "00FACE WITH HEAD-BANDAGE|00ROBOT FACE|01HUGGING|00SIGN OF THE HORNS|00CALL ME HAND"),
   (0x1F91A, "01RAISED BACK OF|00LEFT-FACING FIST|01RIGHT-FACING|00HANDSHAKE"),
   (0x1F91E, "00HAND WITH INDEX AND MIDDLE FINGERS CROSSED|00I LOVE YOU HAND SIGN"),
   (0x1F920, "00FACE WITH COWBOY HAT|00CLOWN FACE|01NAUSEATED|00ROLLING ON THE FLOOR LAUGHING"),
   (0x1F924, "00DROOLING FACE|01LYING|00FACE PALM|00SNEEZING FACE|00FACE WITH ONE EYEBROW RAISED"),
   (0x1F929, "00GRINNING FACE WITH STAR EYES|30ONE LARGE AND ONE SMALL EYE"),
   (0x1F92B, "00FACE WITH FINGER COVERING CLOSED LIPS|00SERIOUS FACE WITH SYMBOLS COVERING MOUTH"),
   (0x1F92D, "02SMILING FACE WITH SMILING EYES AND HAND|00FACE WITH OPEN MOUTH VOMITING"),
   (0x1F92F, "00SHOCKED FACE WITH EXPLODING HEAD|00PREGNANT WOMAN|00BREAST-FEEDING"),
   (0x1F932, "00PALMS UP TOGETHER|00SELFIE|00PRINCE|00MAN IN TUXEDO|00MOTHER CHRISTMAS|00SHRUG"),
   (0x1F938, "00PERSON DOING CARTWHEEL|00JUGGLING|00FENCER|00MODERN PENTATHLON|00WRESTLERS"),
   (0x1F93D, "00WATER POLO|00HANDBALL|00DIVING MASK|00WILTED FLOWER|00DRUM WITH DRUMSTICKS"),
   (0x1F942, "00CLINKING GLASSES|00TUMBLER GLASS|00SPOON|00GOAL NET|00RIFLE|00FIRST PLACE MEDAL"),
   (0x1F948, "02SECOND|02THIRD|00BOXING GLOVE|00MARTIAL ARTS UNIFORM|00CURLING STONE"),
   (0x1F94D, "00LACROSSE STICK AND BALL|00SOFTBALL|00FLYING DISC|00CROISSANT|00AVOCADO|00CUCUMBER"),
   (0x1F953, "00BACON|00POTATO|00CARROT|00BAGUETTE BREAD|00GREEN SALAD|00SHALLOW PAN OF FOOD"),
   (0x1F959, "00STUFFED FLATBREAD|00EGG|00GLASS OF MILK|00PEANUTS|00KIWIFRUIT|00PANCAKES"),
   (0x1F95F, "00DUMPLING|00FORTUNE COOKIE|00TAKEOUT BOX|00CHOPSTICKS|00BOWL WITH SPOON"),
   (0x1F964, "00CUP WITH STRAW|00COCONUT|00BROCCOLI|00PIE|00PRETZEL|00CUT OF MEAT|00SANDWICH"),
   (0x1F96B, "00CANNED FOOD|00LEAFY GREEN|00MANGO|00MOON CAKE|00BAGEL"),
   (0x1F970, "00SMILING FACE WITH SMILING EYES AND THREE HEARTS|00YAWNING FACE"),
   (0x1F972, "00SMILING FACE WITH TEAR|00FACE WITH PARTY HORN AND PARTY HAT"),
   (0x1F974, "20UNEVEN EYES AND WAVY MOUTH|00OVERHEATED FACE|01FREEZING|00NINJA|00DISGUISED FACE"),
   (0x1F979, "00FACE HOLDING BACK TEARS|10WITH PLEADING EYES|00SARI|00LAB COAT|00GOGGLES"),
   (0x1F97E, "00HIKING BOOT|00FLAT SHOE|00CRAB|00LION FACE|00SCORPION|00TURKEY|00UNICORN FACE"),
   (0x1F985, "00EAGLE|00DUCK|00BAT|00SHARK|00OWL|00FOX FACE|00BUTTERFLY|00DEER|00GORILLA|00LIZARD"),
   (0x1F98F, "00RHINOCEROS|00SHRIMP|00SQUID|00GIRAFFE FACE|01ZEBRA|00HEDGEHOG|00SAUROPOD|00T-REX"),
   (0x1F997, "00CRICKET|00KANGAROO|00LLAMA|00PEACOCK|00HIPPOPOTAMUS|00PARROT|00RACCOON|00LOBSTER"),
   (0x1F99F, "00MOSQUITO|00MICROBE|00BADGER|00SWAN|00MAMMOTH|00DODO|00SLOTH|00OTTER|00ORANGUTAN"),
   (0x1F9A8, "00SKUNK|00FLAMINGO|00OYSTER|00BEAVER|00BISON|00SEAL|00GUIDE DOG|00PROBING CANE"),
   (0x1F9B0, "00EMOJI COMPONENT RED HAIR|21CURLY|20BALD|20WHITE HAIR|00BONE|00LEG|00FOOT|00TOOTH"),
   (0x1F9B8, "00SUPERHERO|00SUPERVILLAIN|00SAFETY VEST|00EAR WITH HEARING AID"),
   (0x1F9BC, "00MOTORIZED WHEELCHAIR|01MANUAL|00MECHANICAL ARM|10LEG|00CHEESE WEDGE|00CUPCAKE"),
   (0x1F9C2, "00SALT SHAKER|00BEVERAGE BOX|00GARLIC|00ONION|00FALAFEL|00WAFFLE|00BUTTER"),
   (0x1F9C9, "00MATE DRINK|00ICE CUBE|00BUBBLE TEA|00TROLL|00STANDING PERSON|01KNEELING|01DEAF"),
   (0x1F9D0, "00FACE WITH MONOCLE|00ADULT|00CHILD|00OLDER ADULT|00BEARDED PERSON"),
   (0x1F9D5, "00PERSON WITH HEADSCARF|10IN STEAMY ROOM|10CLIMBING|10IN LOTUS POSITION|00MAGE"),
   (0x1F9DA, "00FAIRY|00VAMPIRE|00MERPERSON|00ELF|00GENIE|00ZOMBIE|00BRAIN|00ORANGE HEART"),
   (0x1F9E2, "00BILLED CAP|00SCARF|00GLOVES|00COAT|00SOCKS|00RED GIFT ENVELOPE|00FIRECRACKER"),
   (0x1F9E9, "00JIGSAW PUZZLE PIECE|00TEST TUBE|00PETRI DISH|00DNA DOUBLE HELIX|00COMPASS"),
   (0x1F9EE, "00ABACUS|00FIRE EXTINGUISHER|00TOOLBOX|00BRICK|00MAGNET|00LUGGAGE|00LOTION BOTTLE"),
   (0x1F9F5, "00SPOOL OF THREAD|00BALL OF YARN|00SAFETY PIN|00TEDDY BEAR|00BROOM|00BASKET"),
   (0x1F9FB, "00ROLL OF PAPER|00BAR OF SOAP|00SPONGE|00RECEIPT|00NAZAR AMULET")]

/-- The names of control characters, and other names of characters. -/
def furtherNames : List (Nat × String) :=
  [(0x0, "NUL|NULL"), (0x1, "START OF HEADING|SOH"), (0x2, "START OF TEXT|STX"),
   (0x3, "END OF TEXT|ETX"), (0x4, "END OF TRANSMISSION|EOT"), (0x5, "ENQUIRY|ENQ"),
   (0x6, "ACKNOWLEDGE|ACK"), (0x7, "ALERT|BEL"), (0x8, "BACKSPACE|BS"),
   (0x9, "CHARACTER TABULATION|HORIZONTAL TABULATION|HT|TAB"),
   (0xA, "LINE FEED|NEW LINE|END OF LINE|LF|NL|EOL"),
   (0xB, "LINE TABULATION|VERTICAL TABULATION|VT"), (0xC, "FORM FEED|FF"),
   (0xD, "CARRIAGE RETURN|CR"), (0xE, "SHIFT OUT|LOCKING-SHIFT ONE|SO"),
   (0xF, "SHIFT IN|LOCKING-SHIFT ZERO|SI"), (0x10, "DATA LINK ESCAPE|DLE"),
   (0x11, "DEVICE CONTROL ONE|DC1"), (0x12, "DEVICE CONTROL TWO|DC2"),
   (0x13, "DEVICE CONTROL THREE|DC3"), (0x14, "DEVICE CONTROL FOUR|DC4"),
   (0x15, "NEGATIVE ACKNOWLEDGE|NAK"), (0x16, "SYNCHRONOUS IDLE|SYN"),
   (0x17, "END OF TRANSMISSION BLOCK|ETB"), (0x18, "CANCEL|CAN"), (0x19, "END OF MEDIUM|EOM"),
   (0x1A, "SUBSTITUTE|SUB"), (0x1B, "ESCAPE|ESC"),
   (0x1C, "INFORMATION SEPARATOR FOUR|FILE SEPARATOR|FS"),
   (0x1D, "INFORMATION SEPARATOR THREE|GROUP SEPARATOR|GS"),
   (0x1E, "INFORMATION SEPARATOR TWO|RECORD SEPARATOR|RS"),
   (0x1F, "INFORMATION SEPARATOR ONE|UNIT SEPARATOR|US"), (0x20, "SP"), (0x7F, "DELETE|DEL"),
   (0x80, "PADDING CHARACTER|PAD"), (0x81, "HIGH OCTET PRESET|HOP"),
   (0x82, "BREAK PERMITTED HERE|BPH"), (0x83, "NO BREAK HERE|NBH"), (0x84, "INDEX|IND"),
   (0x85, "NEXT LINE|NEL"), (0x86, "START OF SELECTED AREA|SSA"),
   (0x87, "END OF SELECTED AREA|ESA"),
   (0x88, "CHARACTER TABULATION SET|HORIZONTAL TABULATION SET|HTS"),
   (0x89, "CHARACTER TABULATION WITH JUSTIFICATION|HORIZONTAL TABULATION WITH JUSTIFICATION|HTJ"),
   (0x8A, "LINE TABULATION SET|VERTICAL TABULATION SET|VTS"),
   (0x8B, "PARTIAL LINE FORWARD|PARTIAL LINE DOWN|PLD"),
   (0x8C, "PARTIAL LINE BACKWARD|PARTIAL LINE UP|PLU"),
   (0x8D, "REVERSE LINE FEED|REVERSE INDEX|RI"), (0x8E, "SINGLE SHIFT TWO|SINGLE-SHIFT-2|SS2"),
   (0x8F, "SINGLE SHIFT THREE|SINGLE-SHIFT-3|SS3"), (0x90, "DEVICE CONTROL STRING|DCS"),
   (0x91, "PRIVATE USE ONE|PRIVATE USE-1|PU1"), (0x92, "PRIVATE USE TWO|PRIVATE USE-2|PU2"),
   (0x93, "SET TRANSMIT STATE|STS"), (0x94, "CANCEL CHARACTER|CCH"), (0x95, "MESSAGE WAITING|MW"),
   (0x96, "START OF GUARDED AREA|START OF PROTECTED AREA|SPA"),
   (0x97, "END OF GUARDED AREA|END OF PROTECTED AREA|EPA"), (0x98, "START OF STRING|SOS"),
   (0x99, "SINGLE GRAPHIC CHARACTER INTRODUCER|SGC"), (0x9A, "SINGLE CHARACTER INTRODUCER|SCI"),
   (0x9B, "CONTROL SEQUENCE INTRODUCER|CSI"), (0x9C, "STRING TERMINATOR|ST"),
   (0x9D, "OPERATING SYSTEM COMMAND|OSC"), (0x9E, "PRIVACY MESSAGE|PM"),
   (0x9F, "APPLICATION PROGRAM COMMAND|APC"), (0xA0, "NBSP"), (0xAD, "SHY"),
   (0x1A2, "LATIN CAPITAL LETTER GHA"), (0x1A3, "LATIN SMALL LETTER GHA"), (0x34F, "CGJ"),
   (0x61C, "ALM"), (0x709, "SYRIAC SUBLINEAR COLON SKEWED LEFT"), (0xCDE, "KANNADA LETTER LLLA"),
   (0xE9D, "LAO LETTER FO FON"), (0xE9F, "LAO LETTER FO FAY"), (0xEA3, "LAO LETTER RO"),
   (0xEA5, "LAO LETTER LO"), (0x11EC, "HANGUL JONGSEONG YESIEUNG-KIYEOK"),
   (0x11ED, "HANGUL JONGSEONG YESIEUNG-SSANGKIYEOK"), (0x11EE, "HANGUL JONGSEONG SSANGYESIEUNG"),
   (0x11EF, "HANGUL JONGSEONG YESIEUNG-KHIEUKH"), (0x180B, "FVS1"), (0x180C, "FVS2"),
   (0x180D, "FVS3"), (0x180E, "MVS"), (0x180F, "FVS4"), (0x200B, "ZWSP"), (0x200C, "ZWNJ"),
   (0x200D, "ZWJ"), (0x200E, "LRM"), (0x200F, "RLM"), (0x202A, "LRE"), (0x202B, "RLE"),
   (0x202C, "PDF"), (0x202D, "LRO"), (0x202E, "RLO"), (0x202F, "NNBSP"), (0x205F, "MMSP"),
   (0x2060, "WJ"), (0x2066, "LRI"), (0x2067, "RLI"), (0x2068, "FSI"), (0x2069, "PDI"),
   (0x2118, "WEIERSTRASS ELLIPTIC FUNCTION"), (0x2448, "MICR ON US SYMBOL"),
   (0x2449, "MICR DASH SYMBOL"),
   (0x2B7A, "LEFTWARDS TRIANGLE-HEADED ARROW WITH DOUBLE VERTICAL STROKE"),
   (0x2B7C, "RIGHTWARDS TRIANGLE-HEADED ARROW WITH DOUBLE VERTICAL STROKE"),
   (0xA015, "YI SYLLABLE ITERATION MARK"),
   (0xFE18, "PRESENTATION FORM FOR VERTICAL RIGHT WHITE LENTICULAR BRACKET"),
   (0xFEFF, "BYTE ORDER MARK|BOM|ZWNBSP"), (0x122D4, "CUNEIFORM SIGN NU11 TENU"),
   (0x122D5, "CUNEIFORM SIGN NU11 OVER NU11 BUR OVER BUR"),
   (0x1D0C5, "BYZANTINE MUSICAL SYMBOL FTHORA SKLIRON CHROMA VASIS")]

end TypeRegistry.Text
