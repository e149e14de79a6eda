import Ingest.Text.Alphanumeric

/-!
# Address/NameTables — the characters of domain names

Tables for version 16 of Unicode. A character of a domain name is dropped, refused, replaced by other
characters, or kept. The other tables tell how characters are joined and in which direction they run;
of them only characters that are kept matter.
-/

namespace Ingest.DomainName

/-! ## What becomes of a character -/

/-- The characters that are dropped. -/
def droppedRanges : List (Nat × Nat) :=
  [(0xAD, 0xAD), (0x34F, 0x34F), (0x180B, 0x180D), (0x180F, 0x180F), (0x200B, 0x200B),
    (0x2060, 0x2060), (0x2064, 0x2064), (0xFE00, 0xFE0F), (0xFEFF, 0xFEFF), (0x1BCA0, 0x1BCA3),
    (0xE0100, 0xE01EF)]

/-- The characters that are refused although they can be seen. Those that stand for a character that
no name may hold, such as a slash, are among them. -/
def refusedRanges : List (Nat × Nat) :=
  [(0xA8, 0xA8), (0xAF, 0xAF), (0xB4, 0xB4), (0xB8, 0xB8), (0x2D8, 0x2DD), (0x37A, 0x37A),
    (0x384, 0x385), (0x115F, 0x1160), (0x17B4, 0x17B5), (0x1FBD, 0x1FBD), (0x1FBF, 0x1FC1),
    (0x1FCD, 0x1FCF), (0x1FDD, 0x1FDF), (0x1FED, 0x1FEE), (0x1FFD, 0x1FFE), (0x2017, 0x2017),
    (0x2024, 0x2026), (0x203E, 0x203E), (0x2047, 0x2049), (0x2100, 0x2101), (0x2105, 0x2106),
    (0x2488, 0x249B), (0x2A74, 0x2A74), (0x2FF0, 0x2FFF), (0x309B, 0x309C), (0x3164, 0x3164),
    (0x31EF, 0x31EF), (0x33C2, 0x33C2), (0x33C7, 0x33C7), (0x33D8, 0x33D8), (0xFC5E, 0xFC63),
    (0xFDFA, 0xFDFB), (0xFE12, 0xFE13), (0xFE16, 0xFE16), (0xFE19, 0xFE19), (0xFE30, 0xFE30),
    (0xFE47, 0xFE4C), (0xFE52, 0xFE52), (0xFE55, 0xFE56), (0xFE5F, 0xFE5F), (0xFE64, 0xFE65),
    (0xFE68, 0xFE68), (0xFE6A, 0xFE6B), (0xFE70, 0xFE70), (0xFE72, 0xFE72), (0xFE74, 0xFE74),
    (0xFE76, 0xFE76), (0xFE78, 0xFE78), (0xFE7A, 0xFE7A), (0xFE7C, 0xFE7C), (0xFE7E, 0xFE7E),
    (0xFF03, 0xFF03), (0xFF05, 0xFF05), (0xFF0F, 0xFF0F), (0xFF1A, 0xFF1A), (0xFF1C, 0xFF1C),
    (0xFF1E, 0xFF20), (0xFF3B, 0xFF3E), (0xFF5C, 0xFF5C), (0xFFA0, 0xFFA0), (0xFFE3, 0xFFE3),
    (0xFFFC, 0xFFFD), (0x1F100, 0x1F100)]

/-- The characters that are replaced: the first and the last one of some characters, the distance
between two of them, and what they are replaced by. -/
def replacements : List (Nat × Nat × Nat × String) :=
  [(0xAA, 0xAA, 1, "a"),
    (0xB2, 0xB3, 1, "2 3"),
    (0xB5, 0xB5, 1, "μ"),
    (0xB9, 0xBA, 1, "1 o"),
    (0xBC, 0xDE, 2, "1⁄4 3⁄4 à â ä æ è ê ì î ð ò ô ö ø ú ü þ"),
    (0xBD, 0xBD, 1, "1⁄2"),
    (0xC1, 0xD5, 2, "á ã å ç é ë í ï ñ ó õ"),
    (0xD9, 0xDD, 2, "ù û ý"),
    (0x100, 0x136, 2, "ā ă ą ć ĉ ċ č ď đ ē ĕ ė ę ě ĝ ğ ġ ģ ĥ ħ ĩ ī ĭ į i̇ ij ĵ ķ"),
    (0x133, 0x133, 1, "ij"),
    (0x139, 0x149, 2, "ĺ ļ ľ l· ł ń ņ ň ʼn"),
    (0x140, 0x140, 1, "l·"),
    (0x14A, 0x178, 2, "ŋ ō ŏ ő œ ŕ ŗ ř ś ŝ ş š ţ ť ŧ ũ ū ŭ ů ű ų ŵ ŷ ÿ"),
    (0x179, 0x181, 2, "ź ż ž s ɓ"),
    (0x182, 0x186, 2, "ƃ ƅ ɔ"),
    (0x187, 0x18B, 2, "ƈ ɖ ƌ"),
    (0x18A, 0x18A, 1, "ɗ"),
    (0x18E, 0x191, 1, "ǝ ə ɛ ƒ"),
    (0x193, 0x194, 1, "ɠ ɣ"),
    (0x196, 0x198, 1, "ɩ ɨ ƙ"),
    (0x19C, 0x19D, 1, "ɯ ɲ"),
    (0x19F, 0x1A0, 1, "ɵ ơ"),
    (0x1A2, 0x1A6, 2, "ƣ ƥ ʀ"),
    (0x1A7, 0x1A9, 2, "ƨ ʃ"),
    (0x1AC, 0x1AE, 2, "ƭ ʈ"),
    (0x1AF, 0x1B7, 2, "ư ʊ ƴ ƶ ʒ"),
    (0x1B2, 0x1B2, 1, "ʋ"),
    (0x1B8, 0x1B8, 1, "ƹ"),
    (0x1BC, 0x1BC, 1, "ƽ"),
    (0x1C4, 0x1CD, 1, "dž dž dž lj lj lj nj nj nj ǎ"),
    (0x1CF, 0x1DB, 2, "ǐ ǒ ǔ ǖ ǘ ǚ ǜ"),
    (0x1DE, 0x1EE, 2, "ǟ ǡ ǣ ǥ ǧ ǩ ǫ ǭ ǯ"),
    (0x1F1, 0x1F4, 1, "dz dz dz ǵ"),
    (0x1F6, 0x232, 2, "ƕ ǹ ǻ ǽ ǿ ȁ ȃ ȅ ȇ ȉ ȋ ȍ ȏ ȑ ȓ ȕ ȗ ș ț ȝ ȟ ƞ ȣ ȥ ȧ ȩ ȫ ȭ ȯ ȱ ȳ"),
    (0x1F7, 0x1F7, 1, "ƿ"),
    (0x23A, 0x23B, 1, "ⱥ ȼ"),
    (0x23D, 0x23E, 1, "ƚ ⱦ"),
    (0x241, 0x245, 2, "ɂ ƀ ʌ"),
    (0x244, 0x24E, 2, "ʉ ɇ ɉ ɋ ɍ ɏ"),
    (0x2B0, 0x2B8, 1, "h ɦ j r ɹ ɻ ʁ w y"),
    (0x2E0, 0x2E4, 1, "ɣ l s x ʕ"),
    (0x340, 0x341, 1, "̀ ́"),
    (0x343, 0x345, 1, "̓ ̈́ ι"),
    (0x370, 0x376, 2, "ͱ ͳ ʹ ͷ"),
    (0x37E, 0x37F, 1, "; ϳ"),
    (0x386, 0x38A, 1, "ά · έ ή ί"),
    (0x38C, 0x38E, 2, "ό ύ"),
    (0x38F, 0x3AB, 2, "ώ α γ ε η ι λ ν ο ρ σ υ χ ω ϋ"),
    (0x392, 0x3A0, 2, "β δ ζ θ κ μ ξ π"),
    (0x3A4, 0x3AA, 2, "τ φ ψ ϊ"),
    (0x3CF, 0x3D6, 1, "ϗ β θ υ ύ ϋ φ π"),
    (0x3D8, 0x3F4, 2, "ϙ ϛ ϝ ϟ ϡ ϣ ϥ ϧ ϩ ϫ ϭ ϯ κ σ θ"),
    (0x3F1, 0x3F1, 1, "ρ"),
    (0x3F5, 0x3F9, 2, "ε ϸ σ"),
    (0x3FA, 0x3FA, 1, "ϻ"),
    (0x3FD, 0x421, 1, "ͻ ͼ ͽ ѐ ё ђ ѓ є ѕ і ї ј љ њ ћ ќ ѝ ў џ а б в г д е ж з и й к л м н о п р с"),
    (0x422, 0x42F, 1, "т у ф х ц ч ш щ ъ ы ь э ю я"),
    (0x460, 0x480, 2, "ѡ ѣ ѥ ѧ ѩ ѫ ѭ ѯ ѱ ѳ ѵ ѷ ѹ ѻ ѽ ѿ ҁ"),
    (0x48A, 0x4C0, 2, "ҋ ҍ ҏ ґ ғ ҕ җ ҙ қ ҝ ҟ ҡ ң ҥ ҧ ҩ ҫ ҭ ү ұ ҳ ҵ ҷ ҹ һ ҽ ҿ ӏ"),
    (0x4C1, 0x4CD, 2, "ӂ ӄ ӆ ӈ ӊ ӌ ӎ"),
    (0x4D0, 0x518, 2, "ӑ ӓ ӕ ӗ ә ӛ ӝ ӟ ӡ ӣ ӥ ӧ ө ӫ ӭ ӯ ӱ ӳ ӵ ӷ ӹ ӻ ӽ ӿ ԁ ԃ ԅ ԇ ԉ ԋ ԍ ԏ ԑ ԓ ԕ ԗ ԙ"),
    (0x51A, 0x52E, 2, "ԛ ԝ ԟ ԡ ԣ ԥ ԧ ԩ ԫ ԭ ԯ"),
    (0x531, 0x555, 1, "ա բ գ դ ե զ է ը թ ժ ի լ խ ծ կ հ ձ ղ ճ մ յ ն շ ո չ պ ջ ռ ս վ տ ր ց ւ փ ք օ"),
    (0x556, 0x556, 1, "ֆ"),
    (0x587, 0x587, 1, "եւ"),
    (0x675, 0x678, 1, "اٴ وٴ ۇٴ يٴ"),
    (0x958, 0x95F, 1, "क़ ख़ ग़ ज़ ड़ ढ़ फ़ य़"),
    (0x9DC, 0x9DD, 1, "ড় ঢ়"),
    (0x9DF, 0x9DF, 1, "য়"),
    (0xA33, 0xA33, 1, "ਲ਼"),
    (0xA36, 0xA36, 1, "ਸ਼"),
    (0xA59, 0xA5B, 1, "ਖ਼ ਗ਼ ਜ਼"),
    (0xA5E, 0xA5E, 1, "ਫ਼"),
    (0xB5C, 0xB5D, 1, "ଡ଼ ଢ଼"),
    (0xE33, 0xE33, 1, "ํา"),
    (0xEB3, 0xEB3, 1, "ໍາ"),
    (0xEDC, 0xEDD, 1, "ຫນ ຫມ"),
    (0xF0C, 0xF0C, 1, "་"),
    (0xF43, 0xF43, 1, "གྷ"),
    (0xF4D, 0xF4D, 1, "ཌྷ"),
    (0xF52, 0xF52, 1, "དྷ"),
    (0xF57, 0xF57, 1, "བྷ"),
    (0xF5C, 0xF5C, 1, "ཛྷ"),
    (0xF69, 0xF69, 1, "ཀྵ"),
    (0xF73, 0xF79, 2, "ཱི ཱུ ྲཱྀ ླཱྀ"),
    (0xF76, 0xF78, 2, "ྲྀ ླྀ"),
    (0xF81, 0xF81, 1, "ཱྀ"),
    (0xF93, 0xF93, 1, "ྒྷ"),
    (0xF9D, 0xF9D, 1, "ྜྷ"),
    (0xFA2, 0xFA2, 1, "ྡྷ"),
    (0xFA7, 0xFA7, 1, "ྦྷ"),
    (0xFAC, 0xFAC, 1, "ྫྷ"),
    (0xFB9, 0xFB9, 1, "ྐྵ"),
    (0x10A0, 0x10C3, 1, "ⴀ ⴁ ⴂ ⴃ ⴄ ⴅ ⴆ ⴇ ⴈ ⴉ ⴊ ⴋ ⴌ ⴍ ⴎ ⴏ ⴐ ⴑ ⴒ ⴓ ⴔ ⴕ ⴖ ⴗ ⴘ ⴙ ⴚ ⴛ ⴜ ⴝ ⴞ ⴟ ⴠ ⴡ ⴢ ⴣ"),
    (0x10C4, 0x10C5, 1, "ⴤ ⴥ"),
    (0x10C7, 0x10C7, 1, "ⴧ"),
    (0x10CD, 0x10CD, 1, "ⴭ"),
    (0x10FC, 0x10FC, 1, "ნ"),
    (0x13F8, 0x13FD, 1, "Ᏸ Ᏹ Ᏺ Ᏻ Ᏼ Ᏽ"),
    (0x1C80, 0x1C89, 1, "в д о с т т ъ ѣ ꙋ ᲊ"),
    (0x1C90, 0x1CB3, 1, "ა ბ გ დ ე ვ ზ თ ი კ ლ მ ნ ო პ ჟ რ ს ტ უ ფ ქ ღ ყ შ ჩ ც ძ წ ჭ ხ ჯ ჰ ჱ ჲ ჳ"),
    (0x1CB4, 0x1CBA, 1, "ჴ ჵ ჶ ჷ ჸ ჹ ჺ"),
    (0x1CBD, 0x1CBF, 1, "ჽ ჾ ჿ"),
    (0x1D2C, 0x1D4C, 2, "a b d ǝ h j l n o p t w ɐ ᴂ d ə ɜ"),
    (0x1D2D, 0x1D2D, 1, "æ"),
    (0x1D31, 0x1D39, 2, "e g i k m"),
    (0x1D3D, 0x1D69, 2, "ȣ r u a ɑ b e ɛ g k ŋ ɔ ᴗ t ᴝ v β δ χ r v γ φ"),
    (0x1D50, 0x1D6A, 2, "m o ᴖ p u ɯ ᴥ γ φ i u β ρ χ"),
    (0x1D78, 0x1D78, 1, "н"),
    (0x1D9B, 0x1DBE, 1, "ɒ c ɕ ð ɜ f ɟ ɡ ɥ ɨ ɩ ɪ ᵻ ʝ ɭ ᶅ ʟ ɱ ɰ ɲ ɳ ɴ ɵ ɸ ʂ ʃ ƫ ʉ ʊ ᴜ ʋ ʌ z ʐ ʑ ʒ"),
    (0x1DBF, 0x1DBF, 1, "θ"),
    (0x1E00, 0x1E46, 2, "ḁ ḃ ḅ ḇ ḉ ḋ ḍ ḏ ḑ ḓ ḕ ḗ ḙ ḛ ḝ ḟ ḡ ḣ ḥ ḧ ḩ ḫ ḭ ḯ ḱ ḳ ḵ ḷ ḹ ḻ ḽ ḿ ṁ ṃ ṅ ṇ"),
    (0x1E48, 0x1E8E, 2, "ṉ ṋ ṍ ṏ ṑ ṓ ṕ ṗ ṙ ṛ ṝ ṟ ṡ ṣ ṥ ṧ ṩ ṫ ṭ ṯ ṱ ṳ ṵ ṷ ṹ ṻ ṽ ṿ ẁ ẃ ẅ ẇ ẉ ẋ ẍ ẏ"),
    (0x1E90, 0x1E94, 2, "ẑ ẓ ẕ"),
    (0x1E9A, 0x1E9B, 1, "aʾ ṡ"),
    (0x1E9E, 0x1EE4, 2, "ß ạ ả ấ ầ ẩ ẫ ậ ắ ằ ẳ ẵ ặ ẹ ẻ ẽ ế ề ể ễ ệ ỉ ị ọ ỏ ố ồ ổ ỗ ộ ớ ờ ở ỡ ợ ụ"),
    (0x1EE6, 0x1EFE, 2, "ủ ứ ừ ử ữ ự ỳ ỵ ỷ ỹ ỻ ỽ ỿ"),
    (0x1F08, 0x1F0F, 1, "ἀ ἁ ἂ ἃ ἄ ἅ ἆ ἇ"),
    (0x1F18, 0x1F1D, 1, "ἐ ἑ ἒ ἓ ἔ ἕ"),
    (0x1F28, 0x1F2F, 1, "ἠ ἡ ἢ ἣ ἤ ἥ ἦ ἧ"),
    (0x1F38, 0x1F3F, 1, "ἰ ἱ ἲ ἳ ἴ ἵ ἶ ἷ"),
    (0x1F48, 0x1F4D, 1, "ὀ ὁ ὂ ὃ ὄ ὅ"),
    (0x1F59, 0x1F5F, 2, "ὑ ὓ ὕ ὗ"),
    (0x1F68, 0x1F6F, 1, "ὠ ὡ ὢ ὣ ὤ ὥ ὦ ὧ"),
    (0x1F71, 0x1F7D, 2, "ά έ ή ί ό ύ ώ"),
    (0x1F80, 0x1F97, 1, "ἀι ἁι ἂι ἃι ἄι ἅι ἆι ἇι ἀι ἁι ἂι ἃι ἄι ἅι ἆι ἇι ἠι ἡι ἢι ἣι ἤι ἥι ἦι ἧι"),
    (0x1F98, 0x1FAF, 1, "ἠι ἡι ἢι ἣι ἤι ἥι ἦι ἧι ὠι ὡι ὢι ὣι ὤι ὥι ὦι ὧι ὠι ὡι ὢι ὣι ὤι ὥι ὦι ὧι"),
    (0x1FB2, 0x1FB4, 1, "ὰι αι άι"),
    (0x1FB7, 0x1FBC, 1, "ᾶι ᾰ ᾱ ὰ ά αι"),
    (0x1FBE, 0x1FBE, 1, "ι"),
    (0x1FC2, 0x1FC4, 1, "ὴι ηι ήι"),
    (0x1FC7, 0x1FCC, 1, "ῆι ὲ έ ὴ ή ηι"),
    (0x1FD3, 0x1FD3, 1, "ΐ"),
    (0x1FD8, 0x1FDB, 1, "ῐ ῑ ὶ ί"),
    (0x1FE3, 0x1FE3, 1, "ΰ"),
    (0x1FE8, 0x1FEC, 1, "ῠ ῡ ὺ ύ ῥ"),
    (0x1FEF, 0x1FEF, 1, "`"),
    (0x1FF2, 0x1FF4, 1, "ὼι ωι ώι"),
    (0x1FF7, 0x1FFC, 1, "ῶι ὸ ό ὼ ώ ωι"),
    (0x2011, 0x2011, 1, "‐"),
    (0x2033, 0x2034, 1, "′′ ′′′"),
    (0x2036, 0x2037, 1, "‵‵ ‵‵‵"),
    (0x203C, 0x203C, 1, "!!"),
    (0x2057, 0x2057, 1, "′′′′"),
    (0x2070, 0x2071, 1, "0 i"),
    (0x2074, 0x208E, 1, "4 5 6 7 8 9 + − = ( ) n 0 1 2 3 4 5 6 7 8 9 + − = ( )"),
    (0x2090, 0x209C, 1, "a e o x ə h k l m n p s t"),
    (0x20A8, 0x20A8, 1, "rs"),
    (0x2102, 0x2103, 1, "c °c"),
    (0x2107, 0x2115, 2, "ɛ °f h h ħ i l n"),
    (0x210A, 0x2112, 2, "g h h i l"),
    (0x2116, 0x2116, 1, "no"),
    (0x2119, 0x211D, 1, "p q r r r"),
    (0x2120, 0x212C, 2, "sm tm z ω z k b"),
    (0x2121, 0x2121, 1, "tel"),
    (0x212B, 0x213F, 2, "å c e f m א ג i fax γ π"),
    (0x2130, 0x2138, 2, "e ⅎ o ב ד"),
    (0x213C, 0x2140, 2, "π γ ∑"),
    (0x2145, 0x2149, 1, "d d e i j"),
    (0x2150, 0x2162, 1, "1⁄7 1⁄9 1⁄10 1⁄3 2⁄3 1⁄5 2⁄5 3⁄5 4⁄5 1⁄6 5⁄6 1⁄8 3⁄8 5⁄8 7⁄8 1⁄ i ii iii"),
    (0x2163, 0x217A, 1, "iv v vi vii viii ix x xi xii l c d m i ii iii iv v vi vii viii ix x xi"),
    (0x217B, 0x217F, 1, "xii l c d m"),
    (0x2183, 0x2183, 1, "ↄ"),
    (0x2189, 0x2189, 1, "0⁄3"),
    (0x222C, 0x222D, 1, "∫∫ ∫∫∫"),
    (0x222F, 0x2230, 1, "∮∮ ∮∮∮"),
    (0x2329, 0x232A, 1, "〈 〉"),
    (0x2460, 0x2478, 1, "1 2 3 4 5 6 7 8 9 10 11 12 13 14 15 16 17 18 19 20 (1) (2) (3) (4) (5)"),
    (0x2479, 0x2487, 1, "(6) (7) (8) (9) (10) (11) (12) (13) (14) (15) (16) (17) (18) (19) (20)"),
    (0x249C, 0x24AD, 1, "(a) (b) (c) (d) (e) (f) (g) (h) (i) (j) (k) (l) (m) (n) (o) (p) (q) (r)"),
    (0x24AE, 0x24C9, 1, "(s) (t) (u) (v) (w) (x) (y) (z) a b c d e f g h i j k l m n o p q r s t"),
    (0x24CA, 0x24EA, 1, "u v w x y z a b c d e f g h i j k l m n o p q r s t u v w x y z 0"),
    (0x2A0C, 0x2A0C, 1, "∫∫∫∫"),
    (0x2A75, 0x2A76, 1, "== ==="),
    (0x2ADC, 0x2ADC, 1, "⫝̸"),
    (0x2C00, 0x2C23, 1, "ⰰ ⰱ ⰲ ⰳ ⰴ ⰵ ⰶ ⰷ ⰸ ⰹ ⰺ ⰻ ⰼ ⰽ ⰾ ⰿ ⱀ ⱁ ⱂ ⱃ ⱄ ⱅ ⱆ ⱇ ⱈ ⱉ ⱊ ⱋ ⱌ ⱍ ⱎ ⱏ ⱐ ⱑ ⱒ ⱓ"),
    (0x2C24, 0x2C2F, 1, "ⱔ ⱕ ⱖ ⱗ ⱘ ⱙ ⱚ ⱛ ⱜ ⱝ ⱞ ⱟ"),
    (0x2C60, 0x2C64, 2, "ⱡ ɫ ɽ"),
    (0x2C63, 0x2C63, 1, "ᵽ"),
    (0x2C67, 0x2C6F, 2, "ⱨ ⱪ ⱬ ɑ ɐ"),
    (0x2C6E, 0x2C72, 2, "ɱ ɒ ⱳ"),
    (0x2C75, 0x2C75, 1, "ⱶ"),
    (0x2C7C, 0x2CC2, 2, "j ȿ ⲁ ⲃ ⲅ ⲇ ⲉ ⲋ ⲍ ⲏ ⲑ ⲓ ⲕ ⲗ ⲙ ⲛ ⲝ ⲟ ⲡ ⲣ ⲥ ⲧ ⲩ ⲫ ⲭ ⲯ ⲱ ⲳ ⲵ ⲷ ⲹ ⲻ ⲽ ⲿ ⳁ ⳃ"),
    (0x2CC4, 0x2CE2, 2, "ⳅ ⳇ ⳉ ⳋ ⳍ ⳏ ⳑ ⳓ ⳕ ⳗ ⳙ ⳛ ⳝ ⳟ ⳡ ⳣ"),
    (0x2C7D, 0x2C7F, 2, "v ɀ"),
    (0x2CEB, 0x2CED, 2, "ⳬ ⳮ"),
    (0x2CF2, 0x2CF2, 1, "ⳳ"),
    (0x2D6F, 0x2D6F, 1, "ⵡ"),
    (0x2E9F, 0x2E9F, 1, "母"),
    (0x2EF3, 0x2EF3, 1, "龟"),
    (0x2F00, 0x2F23, 1, "一 丨 丶 丿 乙 亅 二 亠 人 儿 入 八 冂 冖 冫 几 凵 刀 力 勹 匕 匚 匸 十 卜 卩 厂 厶 又 口 囗 土 士 夂 夊 夕"),
    (0x2F24, 0x2F47, 1, "大 女 子 宀 寸 小 尢 尸 屮 山 巛 工 己 巾 干 幺 广 廴 廾 弋 弓 彐 彡 彳 心 戈 戶 手 支 攴 文 斗 斤 方 无 日"),
    (0x2F48, 0x2F6B, 1, "曰 月 木 欠 止 歹 殳 毋 比 毛 氏 气 水 火 爪 父 爻 爿 片 牙 牛 犬 玄 玉 瓜 瓦 甘 生 用 田 疋 疒 癶 白 皮 皿"),
    (0x2F6C, 0x2F8F, 1, "目 矛 矢 石 示 禸 禾 穴 立 竹 米 糸 缶 网 羊 羽 老 而 耒 耳 聿 肉 臣 自 至 臼 舌 舛 舟 艮 色 艸 虍 虫 血 行"),
    (0x2F90, 0x2FB3, 1, "衣 襾 見 角 言 谷 豆 豕 豸 貝 赤 走 足 身 車 辛 辰 辵 邑 酉 釆 里 金 長 門 阜 隶 隹 雨 靑 非 面 革 韋 韭 音"),
    (0x2FB4, 0x2FD5, 1, "頁 風 飛 食 首 香 馬 骨 高 髟 鬥 鬯 鬲 鬼 魚 鳥 鹵 鹿 麥 麻 黃 黍 黑 黹 黽 鼎 鼓 鼠 鼻 齊 齒 龍 龜 龠"),
    (0x3002, 0x3002, 1, "."),
    (0x3036, 0x303A, 2, "〒 十 卅"),
    (0x3039, 0x3039, 1, "卄"),
    (0x309F, 0x309F, 1, "より"),
    (0x30FF, 0x30FF, 1, "コト"),
    (0x3131, 0x3154, 1, "ᄀ ᄁ ᆪ ᄂ ᆬ ᆭ ᄃ ᄄ ᄅ ᆰ ᆱ ᆲ ᆳ ᆴ ᆵ ᄚ ᄆ ᄇ ᄈ ᄡ ᄉ ᄊ ᄋ ᄌ ᄍ ᄎ ᄏ ᄐ ᄑ ᄒ ᅡ ᅢ ᅣ ᅤ ᅥ ᅦ"),
    (0x3155, 0x3163, 1, "ᅧ ᅨ ᅩ ᅪ ᅫ ᅬ ᅭ ᅮ ᅯ ᅰ ᅱ ᅲ ᅳ ᅴ ᅵ"),
    (0x3165, 0x3188, 1, "ᄔ ᄕ ᇇ ᇈ ᇌ ᇎ ᇓ ᇗ ᇙ ᄜ ᇝ ᇟ ᄝ ᄞ ᄠ ᄢ ᄣ ᄧ ᄩ ᄫ ᄬ ᄭ ᄮ ᄯ ᄲ ᄶ ᅀ ᅇ ᅌ ᇱ ᇲ ᅗ ᅘ ᅙ ᆄ ᆅ"),
    (0x3189, 0x318E, 1, "ᆈ ᆑ ᆒ ᆔ ᆞ ᆡ"),
    (0x3192, 0x319F, 1, "一 二 三 四 上 中 下 甲 乙 丙 丁 天 地 人"),
    (0x3200, 0x3222, 2, "(ᄀ) (ᄃ) (ᄆ) (ᄉ) (ᄌ) (ᄏ) (ᄑ) (가) (다) (마) (사) (자) (카) (파) (주) (오후) (一) (三)"),
    (0x3224, 0x3246, 2, "(五) (七) (九) (月) (水) (金) (日) (有) (名) (財) (労) (呼) (監) (資) (祭) (自) 問 文"),
    (0x3201, 0x321D, 2, "(ᄂ) (ᄅ) (ᄇ) (ᄋ) (ᄎ) (ᄐ) (ᄒ) (나) (라) (바) (아) (차) (타) (하) (오전)"),
    (0x3221, 0x3243, 2, "(二) (四) (六) (八) (十) (火) (木) (土) (株) (社) (特) (祝) (代) (学) (企) (協) (休) (至)"),
    (0x3245, 0x3247, 2, "幼 箏"),
    (0x3250, 0x328C, 2, "pte 22 24 26 28 30 32 34 ᄀ ᄃ ᄆ ᄉ ᄌ ᄏ ᄑ 가 다 마 사 자 카 파 참고 우 一 三 五 七 九 月 水"),
    (0x328E, 0x32C8, 2, "金 日 有 名 財 労 男 適 印 項 写 上 下 右 宗 監 資 夜 37 39 41 43 45 47 49 1月 3月 5月 7月 9月"),
    (0x32CA, 0x3304, 2, "11月 hg ev ア ウ オ キ ケ サ ス ソ チ テ ナ ヌ ノ ヒ ヘ マ ム モ ユ ラ ル ロ ヰ ヲ アパート アンペア イニング"),
    (0x3306, 0x3324, 2, "ウォン エーカー オーム カラット ガロン ギガ キュリー キロ キロメートル グラム クルゼイロ ケース コーポ サンチーム センチ ダース"),
    (0x3326, 0x3346, 2, "ドル ナノ ハイツ パーツ ピアストル ピコ ファラッド ブッシェル ヘクタール ペニヒ ペンス ベータ ボルト ポンド ホーン マイル マルク"),
    (0x3348, 0x336A, 2, "ミクロン ミリバール メガトン ヤード ユアン リラ ルーブル レントゲン 0点 2点 4点 6点 8点 10点 12点 14点 16点 18点"),
    (0x336C, 0x3394, 2, "20点 22点 24点 da bar pc dm2 iu 昭和 明治 pa μa ka mb cal pf μf mg hz mhz thz"),
    (0x3396, 0x33BC, 2, "ml kl nm mm km cm2 km2 cm3 km3 m∕s2 kpa gpa rad∕s ps μs pv μv kv pw μw"),
    (0x33BE, 0x33C0, 2, "kw kω"),
    (0x3251, 0x327D, 2, "21 23 25 27 29 31 33 35 ᄂ ᄅ ᄇ ᄋ ᄎ ᄐ ᄒ 나 라 바 아 차 타 하 주의"),
    (0x3281, 0x32BF, 2, "二 四 六 八 十 火 木 土 株 社 特 祝 秘 女 優 注 休 正 中 左 医 学 企 協 36 38 40 42 44 46 48 50"),
    (0x32C1, 0x32FB, 2, "2月 4月 6月 8月 10月 12月 erg ltd イ エ カ ク コ シ セ タ ツ ト ニ ネ ハ フ ホ ミ メ ヤ ヨ リ レ ワ"),
    (0x32FD, 0x331B, 2, "ヱ 令和 アルファ アール インチ エスクード オンス カイリ カロリー ガンマ ギニー ギルダー キログラム キロワット グラムトン クローネ"),
    (0x331D, 0x333D, 2, "コルナ サイクル シリング セント デシ トン ノット パーセント バーレル ピクル ビル フィート フラン ペソ ヘルツ ページ ポイント"),
    (0x333F, 0x3363, 2, "ホン ホール マイクロ マッハ マンション ミリ メガ メートル ヤール リットル ルピー レム ワット 1点 3点 5点 7点 9点 11点"),
    (0x3365, 0x338B, 2, "13点 15点 17点 19点 21点 23点 hpa au ov dm dm3 平成 大正 株式会社 na ma kb gb kcal nf"),
    (0x338D, 0x33B3, 2, "μg kg khz ghz μl dl fm μm cm mm2 m2 mm3 m3 m∕s pa mpa rad rad∕s2 ns ms"),
    (0x33B5, 0x33C5, 2, "nv mv mv nw mw mw mω bq cd"),
    (0x33C4, 0x33D6, 2, "cc c∕kg db ha in km lm log mb mol"),
    (0x33C9, 0x33F1, 2, "gy hp kk kt ln lx mil ph ppm sr wb a∕m 2日 4日 6日 8日 10日 12日 14日 16日 18日"),
    (0x33F3, 0x33FF, 2, "20日 22日 24日 26日 28日 30日 gal"),
    (0x33DA, 0x33FE, 2, "pr sv v∕m 1日 3日 5日 7日 9日 11日 13日 15日 17日 19日 21日 23日 25日 27日 29日 31日"),
    (0xA640, 0xA66C, 2, "ꙁ ꙃ ꙅ ꙇ ꙉ ꙋ ꙍ ꙏ ꙑ ꙓ ꙕ ꙗ ꙙ ꙛ ꙝ ꙟ ꙡ ꙣ ꙥ ꙧ ꙩ ꙫ ꙭ"),
    (0xA680, 0xA69C, 2, "ꚁ ꚃ ꚅ ꚇ ꚉ ꚋ ꚍ ꚏ ꚑ ꚓ ꚕ ꚗ ꚙ ꚛ ъ"),
    (0xA69D, 0xA69D, 1, "ь"),
    (0xA722, 0xA72E, 2, "ꜣ ꜥ ꜧ ꜩ ꜫ ꜭ ꜯ"),
    (0xA732, 0xA770, 2, "ꜳ ꜵ ꜷ ꜹ ꜻ ꜽ ꜿ ꝁ ꝃ ꝅ ꝇ ꝉ ꝋ ꝍ ꝏ ꝑ ꝓ ꝕ ꝗ ꝙ ꝛ ꝝ ꝟ ꝡ ꝣ ꝥ ꝧ ꝩ ꝫ ꝭ ꝯ ꝯ"),
    (0xA779, 0xA77D, 2, "ꝺ ꝼ ᵹ"),
    (0xA77E, 0xA786, 2, "ꝿ ꞁ ꞃ ꞅ ꞇ"),
    (0xA78B, 0xA78D, 2, "ꞌ ɥ"),
    (0xA790, 0xA792, 2, "ꞑ ꞓ"),
    (0xA796, 0xA7C6, 2, "ꞗ ꞙ ꞛ ꞝ ꞟ ꞡ ꞣ ꞥ ꞧ ꞩ ɦ ɡ ɪ ʞ ʝ ꞵ ꞷ ꞹ ꞻ ꞽ ꞿ ꟁ ꟃ ꞔ ᶎ"),
    (0xA7AB, 0xA7AD, 2, "ɜ ɬ"),
    (0xA7B1, 0xA7B3, 2, "ʇ ꭓ"),
    (0xA7C5, 0xA7CB, 2, "ʂ ꟈ ꟊ ɤ"),
    (0xA7CC, 0xA7CC, 1, "ꟍ"),
    (0xA7D0, 0xA7D0, 1, "ꟑ"),
    (0xA7D6, 0xA7DC, 2, "ꟗ ꟙ ꟛ ƛ"),
    (0xA7F2, 0xA7F5, 1, "c f q ꟶ"),
    (0xA7F8, 0xA7F9, 1, "ħ œ"),
    (0xAB5C, 0xAB5F, 1, "ꜧ ꬷ ɫ ꭒ"),
    (0xAB69, 0xAB69, 1, "ʍ"),
    (0xAB70, 0xAB93, 1, "Ꭰ Ꭱ Ꭲ Ꭳ Ꭴ Ꭵ Ꭶ Ꭷ Ꭸ Ꭹ Ꭺ Ꭻ Ꭼ Ꭽ Ꭾ Ꭿ Ꮀ Ꮁ Ꮂ Ꮃ Ꮄ Ꮅ Ꮆ Ꮇ Ꮈ Ꮉ Ꮊ Ꮋ Ꮌ Ꮍ Ꮎ Ꮏ Ꮐ Ꮑ Ꮒ Ꮓ"),
    (0xAB94, 0xABB7, 1, "Ꮔ Ꮕ Ꮖ Ꮗ Ꮘ Ꮙ Ꮚ Ꮛ Ꮜ Ꮝ Ꮞ Ꮟ Ꮠ Ꮡ Ꮢ Ꮣ Ꮤ Ꮥ Ꮦ Ꮧ Ꮨ Ꮩ Ꮪ Ꮫ Ꮬ Ꮭ Ꮮ Ꮯ Ꮰ Ꮱ Ꮲ Ꮳ Ꮴ Ꮵ Ꮶ Ꮷ"),
    (0xABB8, 0xABBF, 1, "Ꮸ Ꮹ Ꮺ Ꮻ Ꮼ Ꮽ Ꮾ Ꮿ"),
    (0xF900, 0xF923, 1, "豈 更 車 賈 滑 串 句 龜 龜 契 金 喇 奈 懶 癩 羅 蘿 螺 裸 邏 樂 洛 烙 珞 落 酪 駱 亂 卵 欄 爛 蘭 鸞 嵐 濫 藍"),
    (0xF924, 0xF947, 1, "襤 拉 臘 蠟 廊 朗 浪 狼 郎 來 冷 勞 擄 櫓 爐 盧 老 蘆 虜 路 露 魯 鷺 碌 祿 綠 菉 錄 鹿 論 壟 弄 籠 聾 牢 磊"),
    (0xF948, 0xF96B, 1, "賂 雷 壘 屢 樓 淚 漏 累 縷 陋 勒 肋 凜 凌 稜 綾 菱 陵 讀 拏 樂 諾 丹 寧 怒 率 異 北 磻 便 復 不 泌 數 索 參"),
    (0xF96C, 0xF98F, 1, "塞 省 葉 說 殺 辰 沈 拾 若 掠 略 亮 兩 凉 梁 糧 良 諒 量 勵 呂 女 廬 旅 濾 礪 閭 驪 麗 黎 力 曆 歷 轢 年 憐"),
    (0xF990, 0xF9B3, 1, "戀 撚 漣 煉 璉 秊 練 聯 輦 蓮 連 鍊 列 劣 咽 烈 裂 說 廉 念 捻 殮 簾 獵 令 囹 寧 嶺 怜 玲 瑩 羚 聆 鈴 零 靈"),
    (0xF9B4, 0xF9D7, 1, "領 例 禮 醴 隸 惡 了 僚 寮 尿 料 樂 燎 療 蓼 遼 龍 暈 阮 劉 杻 柳 流 溜 琉 留 硫 紐 類 六 戮 陸 倫 崙 淪 輪"),
    (0xF9D8, 0xF9FB, 1, "律 慄 栗 率 隆 利 吏 履 易 李 梨 泥 理 痢 罹 裏 裡 里 離 匿 溺 吝 燐 璘 藺 隣 鱗 麟 林 淋 臨 立 笠 粒 狀 炙"),
    (0xF9FC, 0xFA0D, 1, "識 什 茶 刺 切 度 拓 糖 宅 洞 暴 輻 行 降 見 廓 兀 嗀"),
    (0xFA10, 0xFA12, 2, "塚 晴"),
    (0xFA15, 0xFA1E, 1, "凞 猪 益 礼 神 祥 福 靖 精 羽"),
    (0xFA20, 0xFA22, 2, "蘒 諸"),
    (0xFA25, 0xFA26, 1, "逸 都"),
    (0xFA2A, 0xFA4D, 1, "飯 飼 館 鶴 郞 隷 侮 僧 免 勉 勤 卑 喝 嘆 器 塀 墨 層 屮 悔 慨 憎 懲 敏 既 暑 梅 海 渚 漢 煮 爫 琢 碑 社 祉"),
    (0xFA4E, 0xFA6D, 1, "祈 祐 祖 祝 禍 禎 穀 突 節 練 縉 繁 署 者 臭 艹 艹 著 褐 視 謁 謹 賓 贈 辶 逸 難 響 頻 恵 𤋮 舘"),
    (0xFA70, 0xFA93, 1, "並 况 全 侀 充 冀 勇 勺 喝 啕 喙 嗢 塚 墳 奄 奔 婢 嬨 廒 廙 彩 徭 惘 慎 愈 憎 慠 懲 戴 揄 搜 摒 敖 晴 朗 望"),
    (0xFA94, 0xFAB7, 1, "杖 歹 殺 流 滛 滋 漢 瀞 煮 瞧 爵 犯 猪 瑱 甆 画 瘝 瘟 益 盛 直 睊 着 磌 窱 節 类 絛 練 缾 者 荒 華 蝹 襁 覆"),
    (0xFAB8, 0xFAD9, 1, "視 調 諸 請 謁 諾 諭 謹 變 贈 輸 遲 醙 鉶 陼 難 靖 韛 響 頋 頻 鬒 龜 𢡊 𢡄 𣏕 㮝 䀘 䀹 𥉉 𥳐 𧻓 齃 龎"),
    (0xFB00, 0xFB06, 1, "ff fi fl ffi ffl st st"),
    (0xFB13, 0xFB17, 1, "մն մե մի վն մխ"),
    (0xFB1D, 0xFB35, 2, "יִ ײַ א ה ל ר + שׂ שּׂ אָ בּ דּ וּ"),
    (0xFB20, 0xFB40, 2, "ע ד כ ם ת שׁ שּׁ אַ אּ גּ הּ זּ טּ ךּ לּ מּ נּ"),
    (0xFB39, 0xFB3B, 2, "יּ כּ"),
    (0xFB41, 0xFB43, 2, "סּ ףּ"),
    (0xFB44, 0xFB84, 2, "פּ צּ רּ תּ בֿ פֿ ٱ ٻ ٻ پ پ ڀ ڀ ٺ ٺ ٿ ٿ ٹ ٹ ڤ ڤ ڦ ڦ ڄ ڄ ڃ ڃ چ چ ڇ ڇ ڍ ڌ"),
    (0xFB86, 0xFBB0, 2, "ڎ ڈ ژ ڑ ک ک گ گ ڳ ڳ ڱ ڱ ں ڻ ڻ ۀ ہ ہ ھ ھ ے ۓ"),
    (0xFB47, 0xFB89, 2, "קּ שּ וֹ כֿ אל ٱ ٻ ٻ پ پ ڀ ڀ ٺ ٺ ٿ ٿ ٹ ٹ ڤ ڤ ڦ ڦ ڄ ڄ ڃ ڃ چ چ ڇ ڇ ڍ ڌ ڎ ڈ"),
    (0xFB8B, 0xFBB1, 2, "ژ ڑ ک ک گ گ ڳ ڳ ڱ ڱ ں ڻ ڻ ۀ ہ ہ ھ ھ ے ۓ"),
    (0xFBD3, 0xFBF1, 1, "ڭ ڭ ڭ ڭ ۇ ۇ ۆ ۆ ۈ ۈ ۇٴ ۋ ۋ ۅ ۅ ۉ ۉ ې ې ې ې ى ى ئا ئا ئە ئە ئو ئو ئۇ ئۇ"),
    (0xFBF2, 0xFC0A, 1, "ئۆ ئۆ ئۈ ئۈ ئې ئې ئې ئى ئى ئى ی ی ی ی ئج ئح ئم ئى ئي بج بح بخ بم بى بي"),
    (0xFC0B, 0xFC22, 1, "تج تح تخ تم تى تي ثج ثم ثى ثي جح جم حج حم خج خح خم سج سح سخ سم صح صم ضج"),
    (0xFC23, 0xFC3A, 1, "ضح ضخ ضم طح طم ظم عج عم غج غم فج فح فخ فم فى في قح قم قى قي كا كج كح كخ"),
    (0xFC3B, 0xFC52, 1, "كل كم كى كي لج لح لخ لم لى لي مج مح مخ مم مى مي نج نح نخ نم نى ني هج هم"),
    (0xFC53, 0xFC5D, 1, "هى هي يج يح يخ يم يى يي ذٰ رٰ ىٰ"),
    (0xFC64, 0xFC7B, 1, "ئر ئز ئم ئن ئى ئي بر بز بم بن بى بي تر تز تم تن تى تي ثر ثز ثم ثن ثى ثي"),
    (0xFC7C, 0xFC93, 1, "فى في قى قي كا كل كم كى كي لم لى لي ما مم نر نز نم نن نى ني ىٰ ير يز يم"),
    (0xFC94, 0xFCAB, 1, "ين يى يي ئج ئح ئخ ئم ئه بج بح بخ بم به تج تح تخ تم ته ثم جح جم حج حم خج"),
    (0xFCAC, 0xFCC3, 1, "خم سج سح سخ سم صح صخ صم ضج ضح ضخ ضم طح ظم عج عم غج غم فج فح فخ فم قح قم"),
    (0xFCC4, 0xFCDB, 1, "كج كح كخ كل كم لج لح لخ لم له مج مح مخ مم نج نح نخ نم نه هج هم هٰ يج يح"),
    (0xFCDC, 0xFCF2, 1, "يخ يم يه ئم ئه بم به تم ته ثم ثه سم سه شم شه كل كم لم نم نه يم يه ـَّ"),
    (0xFCF3, 0xFD09, 1, "ـُّ ـِّ طى طي عى عي غى غي سى سي شى شي حى حي جى جي خى خي صى صي ضى ضي شج"),
    (0xFD0A, 0xFD21, 1, "شح شخ شم شر سر صر ضر طى طي عى عي غى غي سى سي شى شي حى حي جى جي خى خي صى"),
    (0xFD22, 0xFD39, 1, "صي ضى ضي شج شح شخ شم شر سر صر ضر شج شح شخ شم سه شه طم سج سح سخ شج شح شخ"),
    (0xFD3A, 0xFD3D, 1, "طم ظم اً اً"),
    (0xFD50, 0xFD61, 1, "تجم تحج تحج تحم تخم تمج تمح تمخ جمح جمح حمي حمى سحج سجح سجى سمح سمح سمج"),
    (0xFD62, 0xFD73, 1, "سمم سمم صحح صحح صمم شحم شحم شجي شمخ شمخ شمم شمم ضحى ضخم ضخم طمح طمح طمم"),
    (0xFD74, 0xFD85, 1, "طمي عجم عمم عمم عمى غمم غمي غمى فخم فخم قمح قمم لحم لحي لحى لجج لجج لخم"),
    (0xFD86, 0xFD8F, 1, "لخم لمح لمح محج محم محي مجح مجم مخج مخم"),
    (0xFD92, 0xFDA3, 1, "مجخ همج همم نحم نحى نجم نجم نجى نمي نمى يمم يمم بخي تجي تجى تخي تخى تمي"),
    (0xFDA4, 0xFDB5, 1, "تمى جمي جحى جمى سخى صحي شحي ضحي لجي لمي يحي يجي يمي ممي قمي نحي قمح لحم"),
    (0xFDB6, 0xFDC7, 1, "عمي كمي نجح مخي لجم كمم لجم نجح جحي حجي مجي فمي بحي كمم عجم صمم سخي نجي"),
    (0xFDF0, 0xFDF9, 1, "صلے قلے الله اكبر محمد صلعم رسول عليه وسلم صلى"),
    (0xFDFC, 0xFDFC, 1, "ریال"),
    (0xFE10, 0xFE11, 1, ", 、"),
    (0xFE14, 0xFE15, 1, "; !"),
    (0xFE17, 0xFE18, 1, "〖 〗"),
    (0xFE31, 0xFE44, 1, "— – _ _ ( ) \x7b \x7d 〔 〕 【 】 《 》 〈 〉 「 」 『 』"),
    (0xFE4D, 0xFE51, 1, "_ _ _ , 、"),
    (0xFE54, 0xFE54, 1, ";"),
    (0xFE57, 0xFE5E, 1, "! — ( ) \x7b \x7d 〔 〕"),
    (0xFE60, 0xFE63, 1, "& * + -"),
    (0xFE66, 0xFE66, 1, "="),
    (0xFE69, 0xFE69, 1, "$"),
    (0xFE71, 0xFE71, 1, "ـً"),
    (0xFE77, 0xFEB9, 2, "ـَ ـُ ـِ ـّ ـْ آ أ ؤ إ ئ ئ ا ب ب ة ت ت ث ث ج ج ح ح خ خ د ذ ر ز س س ش ش ص"),
    (0xFEBB, 0xFEFB, 2, "ص ض ض ط ط ظ ظ ع ع غ غ ف ف ق ق ك ك ل ل م م ن ن ه ه و ى ي ي لآ لأ لإ لا"),
    (0xFE80, 0xFEC6, 2, "ء آ أ ؤ إ ئ ئ ا ب ب ة ت ت ث ث ج ج ح ح خ خ د ذ ر ز س س ش ش ص ص ض ض ط ط ظ"),
    (0xFEC8, 0xFEFC, 2, "ظ ع ع غ غ ف ف ق ق ك ك ل ل م م ن ن ه ه و ى ي ي لآ لأ لإ لا"),
    (0xFF01, 0xFF02, 1, "! \""),
    (0xFF04, 0xFF18, 2, "$ & ( * , . 0 2 4 6 8"),
    (0xFF07, 0xFF0D, 2, "' ) + -"),
    (0xFF11, 0xFF1D, 2, "1 3 5 7 9 ; ="),
    (0xFF21, 0xFF3A, 1, "a b c d e f g h i j k l m n o p q r s t u v w x y z"),
    (0xFF3F, 0xFF7F, 2, "_ a c e g i k m o q s u w y \x7b \x7d ⦅ . 」 ・ ァ ゥ ォ ュ ッ ア ウ オ キ ケ サ ス ソ"),
    (0xFF81, 0xFFBD, 2, "チ テ ナ ヌ ノ ヒ ヘ マ ム モ ユ ラ ル ロ ン ゚ ᄀ ᆪ ᆬ ᄃ ᄅ ᆱ ᆳ ᆵ ᄆ ᄈ ᄉ ᄋ ᄍ ᄏ ᄑ"),
    (0xFF40, 0xFF5A, 2, "` b d f h j l n p r t v x z"),
    (0xFF5E, 0xFF9E, 2, "~ ⦆ 「 、 ヲ ィ ェ ャ ョ ー イ エ カ ク コ シ セ タ ツ ト ニ ネ ハ フ ホ ミ メ ヤ ヨ リ レ ワ ゙"),
    (0xFFA2, 0xFFBE, 2, "ᄁ ᄂ ᆭ ᄄ ᆰ ᆲ ᆴ ᄚ ᄇ ᄡ ᄊ ᄌ ᄎ ᄐ ᄒ"),
    (0xFFC2, 0xFFC7, 1, "ᅡ ᅢ ᅣ ᅤ ᅥ ᅦ"),
    (0xFFCA, 0xFFCF, 1, "ᅧ ᅨ ᅩ ᅪ ᅫ ᅬ"),
    (0xFFD2, 0xFFD7, 1, "ᅭ ᅮ ᅯ ᅰ ᅱ ᅲ"),
    (0xFFDA, 0xFFDC, 1, "ᅳ ᅴ ᅵ"),
    (0xFFE0, 0xFFEE, 2, "¢ ¬ ¦ ₩ │ ↑ ↓ ○"),
    (0xFFE1, 0xFFE1, 1, "£"),
    (0xFFE5, 0xFFE5, 1, "¥"),
    (0xFFE9, 0xFFED, 2, "← → ■"),
    (0x10400, 0x10422, 1, "𐐨 𐐩 𐐪 𐐫 𐐬 𐐭 𐐮 𐐯 𐐰 𐐱 𐐲 𐐳 𐐴 𐐵 𐐶 𐐷 𐐸 𐐹 𐐺 𐐻 𐐼 𐐽 𐐾 𐐿 𐑀 𐑁 𐑂 𐑃 𐑄 𐑅 𐑆 𐑇 𐑈 𐑉 𐑊"),
    (0x10423, 0x10427, 1, "𐑋 𐑌 𐑍 𐑎 𐑏"),
    (0x104B0, 0x104D2, 1, "𐓘 𐓙 𐓚 𐓛 𐓜 𐓝 𐓞 𐓟 𐓠 𐓡 𐓢 𐓣 𐓤 𐓥 𐓦 𐓧 𐓨 𐓩 𐓪 𐓫 𐓬 𐓭 𐓮 𐓯 𐓰 𐓱 𐓲 𐓳 𐓴 𐓵 𐓶 𐓷 𐓸 𐓹 𐓺"),
    (0x104D3, 0x104D3, 1, "𐓻"),
    (0x10570, 0x10594, 2, "𐖗 𐖙 𐖛 𐖝 𐖟 𐖡 𐖣 𐖥 𐖧 𐖩 𐖫 𐖭 𐖯 𐖱 𐖳 𐖵 𐖷 𐖹 𐖻"),
    (0x10571, 0x10579, 2, "𐖘 𐖚 𐖜 𐖞 𐖠"),
    (0x1057D, 0x10589, 2, "𐖤 𐖦 𐖨 𐖪 𐖬 𐖮 𐖰"),
    (0x1058D, 0x10591, 2, "𐖴 𐖶 𐖸"),
    (0x10595, 0x10595, 1, "𐖼"),
    (0x10781, 0x107AF, 2, "ː æ ɓ ʣ ʥ ɖ ᶑ ɞ ɤ ɠ ħ ɧ ʪ ɬ ꞎ 𝼅 𝼆 ɶ q 𝼈 ɾ ʨ ꭧ ʈ"),
    (0x10782, 0x10784, 2, "ˑ ʙ"),
    (0x10788, 0x107BA, 2, "ꭦ ʤ ɗ ɘ ʩ ɢ ʛ ʜ ʄ ʫ 𝼄 ɮ ʎ ø ɷ ɺ ɽ ʀ ʦ ʧ ⱱ ʏ ʢ ǀ ǂ 𝼞"),
    (0x107B3, 0x107B9, 2, "ʡ ʘ ǁ 𝼊"),
    (0x10C80, 0x10CA2, 1, "𐳀 𐳁 𐳂 𐳃 𐳄 𐳅 𐳆 𐳇 𐳈 𐳉 𐳊 𐳋 𐳌 𐳍 𐳎 𐳏 𐳐 𐳑 𐳒 𐳓 𐳔 𐳕 𐳖 𐳗 𐳘 𐳙 𐳚 𐳛 𐳜 𐳝 𐳞 𐳟 𐳠 𐳡 𐳢"),
    (0x10CA3, 0x10CB2, 1, "𐳣 𐳤 𐳥 𐳦 𐳧 𐳨 𐳩 𐳪 𐳫 𐳬 𐳭 𐳮 𐳯 𐳰 𐳱 𐳲"),
    (0x10D50, 0x10D65, 1, "𐵰 𐵱 𐵲 𐵳 𐵴 𐵵 𐵶 𐵷 𐵸 𐵹 𐵺 𐵻 𐵼 𐵽 𐵾 𐵿 𐶀 𐶁 𐶂 𐶃 𐶄 𐶅"),
    (0x118A0, 0x118BF, 1, "𑣀 𑣁 𑣂 𑣃 𑣄 𑣅 𑣆 𑣇 𑣈 𑣉 𑣊 𑣋 𑣌 𑣍 𑣎 𑣏 𑣐 𑣑 𑣒 𑣓 𑣔 𑣕 𑣖 𑣗 𑣘 𑣙 𑣚 𑣛 𑣜 𑣝 𑣞 𑣟"),
    (0x16E40, 0x16E5F, 1, "𖹠 𖹡 𖹢 𖹣 𖹤 𖹥 𖹦 𖹧 𖹨 𖹩 𖹪 𖹫 𖹬 𖹭 𖹮 𖹯 𖹰 𖹱 𖹲 𖹳 𖹴 𖹵 𖹶 𖹷 𖹸 𖹹 𖹺 𖹻 𖹼 𖹽 𖹾 𖹿"),
    (0x1CCD6, 0x1CCF8, 1, "a b c d e f g h i j k l m n o p q r s t u v w x y z 0 1 2 3 4 5 6 7 8"),
    (0x1CCF9, 0x1CCF9, 1, "9"),
    (0x1D15E, 0x1D164, 1, "𝅗𝅥 𝅘𝅥 𝅘𝅥𝅮 𝅘𝅥𝅯 𝅘𝅥𝅰 𝅘𝅥𝅱 𝅘𝅥𝅲"),
    (0x1D1BB, 0x1D1C0, 1, "𝆹𝅥 𝆺𝅥 𝆹𝅥𝅮 𝆺𝅥𝅮 𝆹𝅥𝅯 𝆺𝅥𝅯"),
    (0x1D400, 0x1D422, 1, "a b c d e f g h i j k l m n o p q r s t u v w x y z a b c d e f g h i"),
    (0x1D423, 0x1D445, 1, "j k l m n o p q r s t u v w x y z a b c d e f g h i j k l m n o p q r"),
    (0x1D446, 0x1D454, 1, "s t u v w x y z a b c d e f g"),
    (0x1D456, 0x1D478, 1, "i j k l m n o p q r s t u v w x y z a b c d e f g h i j k l m n o p q"),
    (0x1D479, 0x1D49B, 1, "r s t u v w x y z a b c d e f g h i j k l m n o p q r s t u v w x y z"),
    (0x1D49C, 0x1D49C, 1, "a"),
    (0x1D49E, 0x1D49F, 1, "c d"),
    (0x1D4A2, 0x1D4A2, 1, "g"),
    (0x1D4A5, 0x1D4A6, 1, "j k"),
    (0x1D4A9, 0x1D4AC, 1, "n o p q"),
    (0x1D4AE, 0x1D4B9, 1, "s t u v w x y z a b c d"),
    (0x1D4BB, 0x1D4FF, 2, "f h j l n p r t v x z b d f h j l n p r t v x z b d f h j l n p r t v"),
    (0x1D501, 0x1D509, 2, "x z b d f"),
    (0x1D4BE, 0x1D4C2, 2, "i k m"),
    (0x1D4C6, 0x1D504, 2, "q s u w y a c e g i k m o q s u w y a c e g i k m o q s u w y a"),
    (0x1D508, 0x1D50A, 2, "e g"),
    (0x1D50D, 0x1D514, 1, "j k l m n o p q"),
    (0x1D516, 0x1D538, 2, "s u w y a c e g i k m o q s u w y a"),
    (0x1D517, 0x1D51B, 2, "t v x"),
    (0x1D51F, 0x1D53D, 2, "b d f h j l n p r t v x z b d f"),
    (0x1D53C, 0x1D546, 2, "e g i k m o"),
    (0x1D541, 0x1D543, 2, "j l"),
    (0x1D54A, 0x1D58E, 2, "s u w y a c e g i k m o q s u w y a c e g i k m o q s u w y a c e g i"),
    (0x1D590, 0x1D5D4, 2, "k m o q s u w y a c e g i k m o q s u w y a c e g i k m o q s u w y a"),
    (0x1D5D6, 0x1D61A, 2, "c e g i k m o q s u w y a c e g i k m o q s u w y a c e g i k m o q s"),
    (0x1D61C, 0x1D660, 2, "u w y a c e g i k m o q s u w y a c e g i k m o q s u w y a c e g i k"),
    (0x1D662, 0x1D6A4, 2, "m o q s u w y a c e g i k m o q s u w y a c e g i k m o q s u w y ı"),
    (0x1D54B, 0x1D54F, 2, "t v x"),
    (0x1D553, 0x1D597, 2, "b d f h j l n p r t v x z b d f h j l n p r t v x z b d f h j l n p r"),
    (0x1D599, 0x1D5DD, 2, "t v x z b d f h j l n p r t v x z b d f h j l n p r t v x z b d f h j"),
    (0x1D5DF, 0x1D623, 2, "l n p r t v x z b d f h j l n p r t v x z b d f h j l n p r t v x z b"),
    (0x1D625, 0x1D669, 2, "d f h j l n p r t v x z b d f h j l n p r t v x z b d f h j l n p r t"),
    (0x1D66B, 0x1D6A5, 2, "v x z b d f h j l n p r t v x z b d f h j l n p r t v x z ȷ"),
    (0x1D6A8, 0x1D6CA, 1, "α β γ δ ε ζ η θ ι κ λ μ ν ξ ο π ρ θ σ τ υ φ χ ψ ω ∇ α β γ δ ε ζ η θ ι"),
    (0x1D6CB, 0x1D6ED, 1, "κ λ μ ν ξ ο π ρ σ σ τ υ φ χ ψ ω ∂ ε θ κ φ ρ π α β γ δ ε ζ η θ ι κ λ μ"),
    (0x1D6EE, 0x1D710, 1, "ν ξ ο π ρ θ σ τ υ φ χ ψ ω ∇ α β γ δ ε ζ η θ ι κ λ μ ν ξ ο π ρ σ σ τ υ"),
    (0x1D711, 0x1D733, 1, "φ χ ψ ω ∂ ε θ κ φ ρ π α β γ δ ε ζ η θ ι κ λ μ ν ξ ο π ρ θ σ τ υ φ χ ψ"),
    (0x1D734, 0x1D756, 1, "ω ∇ α β γ δ ε ζ η θ ι κ λ μ ν ξ ο π ρ σ σ τ υ φ χ ψ ω ∂ ε θ κ φ ρ π α"),
    (0x1D757, 0x1D779, 1, "β γ δ ε ζ η θ ι κ λ μ ν ξ ο π ρ θ σ τ υ φ χ ψ ω ∇ α β γ δ ε ζ η θ ι κ"),
    (0x1D77A, 0x1D79C, 1, "λ μ ν ξ ο π ρ σ σ τ υ φ χ ψ ω ∂ ε θ κ φ ρ π α β γ δ ε ζ η θ ι κ λ μ ν"),
    (0x1D79D, 0x1D7BF, 1, "ξ ο π ρ θ σ τ υ φ χ ψ ω ∇ α β γ δ ε ζ η θ ι κ λ μ ν ξ ο π ρ σ σ τ υ φ"),
    (0x1D7C0, 0x1D7CB, 1, "χ ψ ω ∂ ε θ κ φ ρ π ϝ ϝ"),
    (0x1D7CE, 0x1D7F0, 1, "0 1 2 3 4 5 6 7 8 9 0 1 2 3 4 5 6 7 8 9 0 1 2 3 4 5 6 7 8 9 0 1 2 3 4"),
    (0x1D7F1, 0x1D7FF, 1, "5 6 7 8 9 0 1 2 3 4 5 6 7 8 9"),
    (0x1E030, 0x1E052, 1, "а б в г д е ж з и к л м о п р с т у ф х ц ч ш ы э ю ꚉ ә і ј ө ү ӏ а б"),
    (0x1E053, 0x1E06D, 1, "в г д е ж з и к л о п с у ф х ц ч ш ъ ы ґ і ѕ џ ҫ ꙑ ұ"),
    (0x1E900, 0x1E921, 1, "𞤢 𞤣 𞤤 𞤥 𞤦 𞤧 𞤨 𞤩 𞤪 𞤫 𞤬 𞤭 𞤮 𞤯 𞤰 𞤱 𞤲 𞤳 𞤴 𞤵 𞤶 𞤷 𞤸 𞤹 𞤺 𞤻 𞤼 𞤽 𞤾 𞤿 𞥀 𞥁 𞥂 𞥃"),
    (0x1EE00, 0x1EE03, 1, "ا ب ج د"),
    (0x1EE05, 0x1EE1F, 1, "و ز ح ط ي ك ل م ن س ع ف ص ق ر ش ت ث خ ذ ض ظ غ ٮ ں ڡ ٯ"),
    (0x1EE21, 0x1EE22, 1, "ب ج"),
    (0x1EE24, 0x1EE24, 1, "ه"),
    (0x1EE27, 0x1EE31, 2, "ح ي ل ن ع ص"),
    (0x1EE2A, 0x1EE36, 2, "ك م س ف ق ش ث"),
    (0x1EE35, 0x1EE3B, 2, "ت خ ض غ"),
    (0x1EE42, 0x1EE42, 1, "ج"),
    (0x1EE47, 0x1EE51, 2, "ح ي ل ن ع ص"),
    (0x1EE4E, 0x1EE4E, 1, "س"),
    (0x1EE52, 0x1EE54, 2, "ق ش"),
    (0x1EE57, 0x1EE61, 2, "خ ض غ ں ٯ ب"),
    (0x1EE62, 0x1EE64, 2, "ج ه"),
    (0x1EE67, 0x1EE6A, 1, "ح ط ي ك"),
    (0x1EE6C, 0x1EE72, 1, "م ن س ع ف ص ق"),
    (0x1EE74, 0x1EE77, 1, "ش ت ث خ"),
    (0x1EE79, 0x1EE7C, 1, "ض ظ غ ٮ"),
    (0x1EE7E, 0x1EE88, 2, "ڡ ا ج ه ز ط"),
    (0x1EE81, 0x1EE9B, 2, "ب د و ح ي ل ن ع ص ر ت خ ض غ"),
    (0x1EE8C, 0x1EE9A, 2, "م س ف ق ش ث ذ ظ"),
    (0x1EEA1, 0x1EEBB, 2, "ب د و ح ي ل ن ع ص ر ت خ ض غ"),
    (0x1EEA2, 0x1EEA2, 1, "ج"),
    (0x1EEA6, 0x1EEA8, 2, "ز ط"),
    (0x1EEAC, 0x1EEBA, 2, "م س ف ق ش ث ذ ظ"),
    (0x1F101, 0x1F10A, 1, "0, 1, 2, 3, 4, 5, 6, 7, 8, 9,"),
    (0x1F110, 0x1F138, 2, "(a) (c) (e) (g) (i) (k) (m) (o) (q) (s) (u) (w) (y) 〔s〕 r wz a c e g i"),
    (0x1F13A, 0x1F14E, 2, "k m o q s u w y hv sd ppv"),
    (0x1F111, 0x1F12D, 2, "(b) (d) (f) (h) (j) (l) (n) (p) (r) (t) (v) (x) (z) c cd"),
    (0x1F131, 0x1F14F, 2, "b d f h j l n p r t v x z mv ss wc"),
    (0x1F16A, 0x1F16C, 1, "mc md mr"),
    (0x1F190, 0x1F190, 1, "dj"),
    (0x1F200, 0x1F202, 1, "ほか ココ サ"),
    (0x1F210, 0x1F232, 1, "手 字 双 デ 二 多 解 天 交 映 無 料 前 後 再 新 初 終 生 販 声 吹 演 投 捕 一 三 遊 左 中 右 指 走 打 禁"),
    (0x1F233, 0x1F23B, 1, "空 合 満 有 月 申 割 営 配"),
    (0x1F240, 0x1F248, 1, "〔本〕 〔三〕 〔二〕 〔安〕 〔点〕 〔打〕 〔盗〕 〔勝〕 〔敗〕"),
    (0x1F250, 0x1F251, 1, "得 可"),
    (0x1FBF0, 0x1FBF9, 1, "0 1 2 3 4 5 6 7 8 9"),
    (0x2F800, 0x2F822, 1, "丽 丸 乁 𠄢 你 侮 侻 倂 偺 備 僧 像 㒞 𠘺 免 兔 兤 具 𠔜 㒹 內 再 𠕋 冗 冤 仌 冬 况 𩇟 凵 刃 㓟 刻 剆 割"),
    (0x2F823, 0x2F845, 1, "剷 㔕 勇 勉 勤 勺 包 匆 北 卉 卑 博 即 卽 卿 卿 卿 𠨬 灰 及 叟 𠭣 叫 叱 吆 咞 吸 呈 周 咢 哶 唐 啓 啣 善"),
    (0x2F846, 0x2F868, 1, "善 喙 喫 喳 嗂 圖 嘆 圗 噑 噴 切 壮 城 埴 堍 型 堲 報 墬 𡓤 売 壷 夆 多 夢 奢 𡚨 𡛪 姬 娛 娧 姘 婦 㛮 㛼"),
    (0x2F869, 0x2F88B, 1, "嬈 嬾 嬾 𡧈 寃 寘 寧 寳 𡬘 寿 将 当 尢 㞁 屠 屮 峀 岍 𡷤 嵃 𡷦 嵮 嵫 嵼 巡 巢 㠯 巽 帨 帽 幩 㡢 𢆃 㡼 庰"),
    (0x2F88C, 0x2F8AE, 1, "庳 庶 廊 𪎒 廾 𢌱 𢌱 舁 弢 弢 㣇 𣊸 𦇚 形 彫 㣣 徚 忍 志 忹 悁 㤺 㤜 悔 𢛔 惇 慈 慌 慎 慌 慺 憎 憲 憤 憯"),
    (0x2F8AF, 0x2F8D1, 1, "懞 懲 懶 成 戛 扝 抱 拔 捐 𢬌 挽 拼 捨 掃 揤 𢯱 搢 揅 掩 㨮 摩 摾 撝 摷 㩬 敏 敬 𣀊 旣 書 晉 㬙 暑 㬈 㫤"),
    (0x2F8D2, 0x2F8F4, 1, "冒 冕 最 暜 肭 䏙 朗 望 朡 杞 杓 𣏃 㭉 柺 枅 桒 梅 𣑭 梎 栟 椔 㮝 楂 榣 槪 檨 𣚣 櫛 㰘 次 𣢧 歔 㱎 歲 殟"),
    (0x2F8F5, 0x2F917, 1, "殺 殻 𣪍 𡴋 𣫺 汎 𣲼 沿 泍 汧 洖 派 海 流 浩 浸 涅 𣴞 洴 港 湮 㴳 滋 滇 𣻑 淹 潮 𣽞 𣾎 濆 瀹 瀞 瀛 㶖 灊"),
    (0x2F918, 0x2F93A, 1, "災 灷 炭 𠔥 煅 𤉣 熜 𤎫 爨 爵 牐 𤘈 犀 犕 𤜵 𤠔 獺 王 㺬 玥 㺸 㺸 瑇 瑜 瑱 璅 瓊 㼛 甤 𤰶 甾 𤲒 異 𢆟 瘐"),
    (0x2F93B, 0x2F95D, 1, "𤾡 𤾸 𥁄 㿼 䀈 直 𥃳 𥃲 𥄙 𥄳 眞 真 真 睊 䀹 瞋 䁆 䂖 𥐝 硎 碌 磌 䃣 𥘦 祖 𥚚 𥛅 福 秫 䄯 穀 穊 穏 𥥼 𥪧"),
    (0x2F95E, 0x2F980, 1, "𥪧 竮 䈂 𥮫 篆 築 䈧 𥲀 糒 䊠 糨 糣 紀 𥾆 絣 䌁 緇 縂 繅 䌴 𦈨 𦉇 䍙 𦋙 罺 𦌾 羕 翺 者 𦓚 𦔣 聠 𦖨 聰 𣍟"),
    (0x2F981, 0x2F9A3, 1, "䏕 育 脃 䐋 脾 媵 𦞧 𦞵 𣎓 𣎜 舁 舄 辞 䑫 芑 芋 芝 劳 花 芳 芽 苦 𦬼 若 茝 荣 莭 茣 莽 菧 著 荓 菊 菌 菜"),
    (0x2F9A4, 0x2F9C6, 1, "𦰶 𦵫 𦳕 䔫 蓱 蓳 蔖 𧏊 蕤 𦼬 䕝 䕡 𦾱 𧃒 䕫 虐 虜 虧 虩 蚩 蚈 蜎 蛢 蝹 蜨 蝫 螆 䗗 蟡 蠁 䗹 衠 衣 𧙧 裗"),
    (0x2F9C7, 0x2F9E9, 1, "裞 䘵 裺 㒻 𧢮 𧥦 䚾 䛇 誠 諭 變 豕 𧲨 貫 賁 贛 起 𧼯 𠠄 跋 趼 跰 𠣞 軔 輸 𨗒 𨗭 邔 郱 鄑 𨜮 鄛 鈸 鋗 鋘"),
    (0x2F9EA, 0x2FA0C, 1, "鉼 鏹 鐕 𨯺 開 䦕 閷 𨵷 䧦 雃 嶲 霣 𩅅 𩈚 䩮 䩶 韠 𩐊 䪲 𩒖 頋 頋 頩 𩖶 飢 䬳 餩 馧 駂 駾 䯎 𩬰 鬒 鱀 鳽"),
    (0x2FA0D, 0x2FA1D, 1, "䳎 䳭 鵧 𪃎 䳸 𪄅 𪈎 𪊑 麻 䵖 黹 黾 鼅 鼏 鼖 鼻 𪘀")]

/-! ## Joining -/

/-- The characters that join the one before them. -/
def rightJoiningRanges : List (Nat × Nat) :=
  [(0x622, 0x625), (0x627, 0x627), (0x629, 0x629), (0x62F, 0x632), (0x648, 0x648), (0x671, 0x673),
    (0x675, 0x677), (0x688, 0x699), (0x6C0, 0x6C0), (0x6C3, 0x6CB), (0x6CD, 0x6CD), (0x6CF, 0x6CF),
    (0x6D2, 0x6D3), (0x6D5, 0x6D5), (0x6EE, 0x6EF), (0x710, 0x710), (0x715, 0x719), (0x71E, 0x71E),
    (0x728, 0x728), (0x72A, 0x72A), (0x72C, 0x72C), (0x72F, 0x72F), (0x74D, 0x74D), (0x759, 0x75B),
    (0x76B, 0x76C), (0x771, 0x771), (0x773, 0x774), (0x778, 0x779), (0x840, 0x840), (0x846, 0x847),
    (0x849, 0x849), (0x854, 0x854), (0x856, 0x858), (0x867, 0x867), (0x869, 0x86A), (0x870, 0x882),
    (0x88E, 0x88E), (0x8AA, 0x8AC), (0x8AE, 0x8AE), (0x8B1, 0x8B2), (0x8B9, 0x8B9),
    (0x10AC5, 0x10AC5), (0x10AC7, 0x10AC7), (0x10AC9, 0x10ACA), (0x10ACE, 0x10AD2),
    (0x10ADD, 0x10ADD), (0x10AE1, 0x10AE1), (0x10AE4, 0x10AE4), (0x10AEF, 0x10AEF),
    (0x10B81, 0x10B81), (0x10B83, 0x10B85), (0x10B89, 0x10B89), (0x10B8C, 0x10B8C),
    (0x10B8E, 0x10B8F), (0x10B91, 0x10B91), (0x10BA9, 0x10BAC), (0x10D22, 0x10D22),
    (0x10F33, 0x10F33), (0x10F54, 0x10F54), (0x10F74, 0x10F75), (0x10FB4, 0x10FB6),
    (0x10FB9, 0x10FBA), (0x10FBD, 0x10FBD), (0x10FC2, 0x10FC3), (0x10FC9, 0x10FC9)]

/-- The characters that join the one after them. -/
def leftJoiningRanges : List (Nat × Nat) :=
  [(0xA872, 0xA872), (0x10ACD, 0x10ACD), (0x10AD7, 0x10AD7), (0x10D00, 0x10D00), (0x10FCB, 0x10FCB)]

/-- The characters that join on both sides. -/
def dualJoiningRanges : List (Nat × Nat) :=
  [(0x620, 0x620), (0x626, 0x626), (0x628, 0x628), (0x62A, 0x62E), (0x633, 0x63F), (0x641, 0x647),
    (0x649, 0x64A), (0x66E, 0x66F), (0x678, 0x687), (0x69A, 0x6BF), (0x6C1, 0x6C2), (0x6CC, 0x6CC),
    (0x6CE, 0x6CE), (0x6D0, 0x6D1), (0x6FA, 0x6FC), (0x6FF, 0x6FF), (0x712, 0x714), (0x71A, 0x71D),
    (0x71F, 0x727), (0x729, 0x729), (0x72B, 0x72B), (0x72D, 0x72E), (0x74E, 0x758), (0x75C, 0x76A),
    (0x76D, 0x770), (0x772, 0x772), (0x775, 0x777), (0x77A, 0x77F), (0x7CA, 0x7EA), (0x841, 0x845),
    (0x848, 0x848), (0x84A, 0x853), (0x855, 0x855), (0x860, 0x860), (0x862, 0x865), (0x868, 0x868),
    (0x886, 0x886), (0x889, 0x88D), (0x8A0, 0x8A9), (0x8AF, 0x8B0), (0x8B3, 0x8B8), (0x8BA, 0x8C8),
    (0x1807, 0x1807), (0x1820, 0x1878), (0x1887, 0x18A8), (0x18AA, 0x18AA), (0xA840, 0xA871),
    (0x10AC0, 0x10AC4), (0x10AD3, 0x10AD6), (0x10AD8, 0x10ADC), (0x10ADE, 0x10AE0),
    (0x10AEB, 0x10AEE), (0x10B80, 0x10B80), (0x10B82, 0x10B82), (0x10B86, 0x10B88),
    (0x10B8A, 0x10B8B), (0x10B8D, 0x10B8D), (0x10B90, 0x10B90), (0x10BAD, 0x10BAE),
    (0x10D01, 0x10D21), (0x10D23, 0x10D23), (0x10F30, 0x10F32), (0x10F34, 0x10F44),
    (0x10F51, 0x10F53), (0x10F70, 0x10F73), (0x10F76, 0x10F81), (0x10FB0, 0x10FB0),
    (0x10FB2, 0x10FB3), (0x10FB8, 0x10FB8), (0x10FBB, 0x10FBC), (0x10FBE, 0x10FBF),
    (0x10FC1, 0x10FC1), (0x10FC4, 0x10FC4), (0x10FCA, 0x10FCA), (0x1E900, 0x1E943)]

/-! ## Direction -/

/-- The marks that run from left to right themselves. -/
def leftToRightMarks : List Nat := [0xCBF, 0xCC6, 0x11A07, 0x11A08, 0x11C3F]

/-- The letters that run from right to left. -/
def rightToLeftRanges : List (Nat × Nat) :=
  [(0x5BE, 0x5BE), (0x5C0, 0x5C0), (0x5C3, 0x5C3), (0x5C6, 0x5C6), (0x5D0, 0x5EA), (0x5EF, 0x5F4),
    (0x608, 0x608), (0x60B, 0x60B), (0x60D, 0x60D), (0x61B, 0x61B), (0x61D, 0x64A), (0x66D, 0x66F),
    (0x671, 0x674), (0x679, 0x6D5), (0x6E5, 0x6E6), (0x6EE, 0x6EF), (0x6FA, 0x70D), (0x710, 0x710),
    (0x712, 0x72F), (0x74D, 0x7A5), (0x7B1, 0x7B1), (0x7C0, 0x7EA), (0x7F4, 0x7F5), (0x7FA, 0x7FA),
    (0x7FE, 0x815), (0x81A, 0x81A), (0x824, 0x824), (0x828, 0x828), (0x830, 0x83E), (0x840, 0x858),
    (0x85E, 0x85E), (0x860, 0x86A), (0x870, 0x88E), (0x897, 0x897), (0x8A0, 0x8C9),
    (0xFBB2, 0xFBC2), (0xFE73, 0xFE73), (0x10800, 0x10805), (0x10808, 0x10808), (0x1080A, 0x10835),
    (0x10837, 0x10838), (0x1083C, 0x1083C), (0x1083F, 0x10855), (0x10857, 0x1089E),
    (0x108A7, 0x108AF), (0x108E0, 0x108F2), (0x108F4, 0x108F5), (0x108FB, 0x1091B),
    (0x10920, 0x10939), (0x1093F, 0x1093F), (0x10980, 0x109B7), (0x109BC, 0x109CF),
    (0x109D2, 0x10A00), (0x10A10, 0x10A13), (0x10A15, 0x10A17), (0x10A19, 0x10A35),
    (0x10A40, 0x10A48), (0x10A50, 0x10A58), (0x10A60, 0x10A9F), (0x10AC0, 0x10AE4),
    (0x10AEB, 0x10AF6), (0x10B00, 0x10B35), (0x10B40, 0x10B55), (0x10B58, 0x10B72),
    (0x10B78, 0x10B91), (0x10B99, 0x10B9C), (0x10BA9, 0x10BAF), (0x10C00, 0x10C48),
    (0x10CC0, 0x10CF2), (0x10CFA, 0x10D23), (0x10D40, 0x10D4F), (0x10D69, 0x10D85),
    (0x10D8E, 0x10D8F), (0x10E80, 0x10EA9), (0x10EAD, 0x10EAD), (0x10EB0, 0x10EB1),
    (0x10EC2, 0x10EC4), (0x10EFC, 0x10EFC), (0x10F00, 0x10F27), (0x10F30, 0x10F45),
    (0x10F51, 0x10F59), (0x10F70, 0x10F81), (0x10F86, 0x10F89), (0x10FB0, 0x10FCB),
    (0x10FE0, 0x10FF6), (0x1E800, 0x1E8C4), (0x1E8C7, 0x1E8CF), (0x1E922, 0x1E943),
    (0x1E94B, 0x1E94B), (0x1E950, 0x1E959), (0x1E95E, 0x1E95F), (0x1EC71, 0x1ECB4),
    (0x1ED01, 0x1ED3D)]

/-- The digits of Arabic numbers. -/
def arabicNumberRanges : List (Nat × Nat) :=
  [(0x660, 0x669), (0x66B, 0x66C), (0x10D30, 0x10D39), (0x10D40, 0x10D49), (0x10E60, 0x10E7E)]

/-- The digits of European numbers. -/
def europeanNumberRanges : List (Nat × Nat) :=
  [(0x30, 0x39), (0x6F0, 0x6F9), (0x2488, 0x249B), (0x102E1, 0x102FB), (0x1F100, 0x1F100)]

/-- The characters without a direction, marks aside. -/
def neutralRanges : List (Nat × Nat) :=
  [(0x21, 0x2F), (0x3A, 0x40), (0x5B, 0x60), (0x7B, 0x7E), (0xA1, 0xA7), (0xA9, 0xA9), (0xAB, 0xAC),
    (0xAE, 0xAE), (0xB0, 0xB1), (0xB6, 0xB7), (0xBB, 0xBB), (0xBF, 0xBF), (0xD7, 0xD7),
    (0xF7, 0xF7), (0x2B9, 0x2BA), (0x2C2, 0x2CF), (0x2D2, 0x2D7), (0x2DE, 0x2DF), (0x2E5, 0x2ED),
    (0x2EF, 0x2FF), (0x375, 0x375), (0x3F6, 0x3F6), (0x58A, 0x58A), (0x58D, 0x58F), (0x606, 0x607),
    (0x609, 0x60A), (0x60C, 0x60C), (0x60E, 0x60F), (0x66A, 0x66A), (0x6DE, 0x6DE), (0x6E9, 0x6E9),
    (0x7F6, 0x7F9), (0x9F2, 0x9F3), (0x9FB, 0x9FB), (0xAF1, 0xAF1), (0xBF3, 0xBFA), (0xC78, 0xC7E),
    (0xE3F, 0xE3F), (0xF3A, 0xF3D), (0x1390, 0x1399), (0x1400, 0x1400), (0x169B, 0x169C),
    (0x17DB, 0x17DB), (0x17F0, 0x17F9), (0x1800, 0x180A), (0x1940, 0x1940), (0x1944, 0x1945),
    (0x19DE, 0x19FF), (0x2010, 0x2010), (0x2012, 0x2016), (0x2018, 0x2023), (0x2027, 0x2027),
    (0x2030, 0x2032), (0x2035, 0x2035), (0x2038, 0x203B), (0x203D, 0x203D), (0x203F, 0x2046),
    (0x204A, 0x2056), (0x2058, 0x205E), (0x20A0, 0x20A7), (0x20A9, 0x20C0), (0x2104, 0x2104),
    (0x2108, 0x2108), (0x2114, 0x2114), (0x2117, 0x2118), (0x211E, 0x211F), (0x2123, 0x2123),
    (0x2125, 0x2125), (0x2127, 0x2127), (0x2129, 0x2129), (0x212E, 0x212E), (0x213A, 0x213A),
    (0x2141, 0x2144), (0x214A, 0x214D), (0x218A, 0x218B), (0x2190, 0x222B), (0x222E, 0x222E),
    (0x2231, 0x2328), (0x232B, 0x2335), (0x237B, 0x2394), (0x2396, 0x2426), (0x2440, 0x244A),
    (0x24EB, 0x26AB), (0x26AD, 0x27FF), (0x2900, 0x2A0B), (0x2A0D, 0x2A73), (0x2A77, 0x2ADB),
    (0x2ADD, 0x2B73), (0x2B76, 0x2B95), (0x2B97, 0x2BFF), (0x2CE5, 0x2CEA), (0x2CF9, 0x2CFF),
    (0x2E00, 0x2E5D), (0x2E80, 0x2E99), (0x2E9B, 0x2E9E), (0x2EA0, 0x2EF2), (0x3001, 0x3001),
    (0x3003, 0x3004), (0x3008, 0x3020), (0x3030, 0x3030), (0x3037, 0x3037), (0x303D, 0x303F),
    (0x30A0, 0x30A0), (0x30FB, 0x30FB), (0x31C0, 0x31E3), (0x4DC0, 0x4DFF), (0xA490, 0xA4C6),
    (0xA60D, 0xA60F), (0xA673, 0xA673), (0xA67E, 0xA67F), (0xA700, 0xA721), (0xA788, 0xA788),
    (0xA828, 0xA82B), (0xA838, 0xA839), (0xA874, 0xA877), (0xAB6A, 0xAB6B), (0xFD3E, 0xFD4F),
    (0xFDCF, 0xFDCF), (0xFDFD, 0xFDFF), (0xFE45, 0xFE46), (0x10101, 0x10101), (0x10140, 0x1018C),
    (0x10190, 0x1019C), (0x101A0, 0x101A0), (0x1091F, 0x1091F), (0x10B39, 0x10B3F),
    (0x11052, 0x11065), (0x11660, 0x1166C), (0x11FD5, 0x11FF1), (0x16FE2, 0x16FE2),
    (0x1D1E9, 0x1D1EA), (0x1D200, 0x1D241), (0x1D245, 0x1D245), (0x1D300, 0x1D356),
    (0x1E2FF, 0x1E2FF), (0x1EEF0, 0x1EEF1), (0x1F000, 0x1F02B), (0x1F030, 0x1F093),
    (0x1F0A0, 0x1F0AE), (0x1F0B1, 0x1F0BF), (0x1F0C1, 0x1F0CF), (0x1F0D1, 0x1F0F5),
    (0x1F10B, 0x1F10F), (0x1F12F, 0x1F12F), (0x1F16D, 0x1F16F), (0x1F1AD, 0x1F1AD),
    (0x1F260, 0x1F265), (0x1F300, 0x1F6D7), (0x1F6DC, 0x1F6EC), (0x1F6F0, 0x1F6FC),
    (0x1F700, 0x1F776), (0x1F77B, 0x1F7D9), (0x1F7E0, 0x1F7EB), (0x1F7F0, 0x1F7F0),
    (0x1F800, 0x1F80B), (0x1F810, 0x1F847), (0x1F850, 0x1F859), (0x1F860, 0x1F887),
    (0x1F890, 0x1F8AD), (0x1F8B0, 0x1F8B1), (0x1F900, 0x1FA53), (0x1FA60, 0x1FA6D),
    (0x1FA70, 0x1FA7C), (0x1FA80, 0x1FA88), (0x1FA90, 0x1FABD), (0x1FABF, 0x1FAC5),
    (0x1FACE, 0x1FADB), (0x1FAE0, 0x1FAE8), (0x1FAF0, 0x1FAF8), (0x1FB00, 0x1FB92),
    (0x1FB94, 0x1FBCA)]

end Ingest.DomainName
