/-!
# Characters in domain names

Ranges of code points beyond ASCII, in increasing order: characters that a domain name drops,
printable ones that it cannot have, because it would write them with characters that no host has,
and those that it writes in another way.
-/
namespace ChargingRegister.Url

/-- Characters that leave no trace in a domain name. -/
def silentRanges : List (Nat × Nat) := [
  (0xAD, 0xAD), (0x34F, 0x34F), (0x115F, 0x1160), (0x17B4, 0x17B5), (0x180B, 0x180F),
  (0x200B, 0x200B), (0x2060, 0x2064), (0x206A, 0x206F), (0x3164, 0x3164), (0xFE00, 0xFE0F),
  (0xFEFF, 0xFEFF), (0xFFA0, 0xFFA0), (0x1BCA0, 0x1BCA3), (0x1D173, 0x1D17A), (0xE0100, 0xE01EF)]

/-- Printable characters without a form that a domain name can have. -/
def unfitRanges : List (Nat × Nat) := [
  (0xA8, 0xA8), (0xAF, 0xAF), (0xB4, 0xB4), (0xB8, 0xB8), (0x2D8, 0x2DD),
  (0x37A, 0x37A), (0x384, 0x385), (0x1FBD, 0x1FBD), (0x1FBF, 0x1FC1), (0x1FCD, 0x1FCF),
  (0x1FDD, 0x1FDF), (0x1FED, 0x1FEE), (0x1FFD, 0x1FFE), (0x2017, 0x2017), (0x2024, 0x2026),
  (0x203E, 0x203E), (0x2047, 0x2049), (0x2100, 0x2101), (0x2105, 0x2106), (0x2488, 0x249B),
  (0x2A74, 0x2A74), (0x2FF0, 0x2FFF), (0x309B, 0x309C), (0x31EF, 0x31EF), (0x33C2, 0x33C2),
  (0x33C7, 0x33C7), (0x33D8, 0x33D8), (0xFC5E, 0xFC63), (0xFDFA, 0xFDFB), (0xFE12, 0xFE13),
  (0xFE16, 0xFE16), (0xFE19, 0xFE19), (0xFE30, 0xFE30), (0xFE47, 0xFE4C), (0xFE52, 0xFE52),
  (0xFE55, 0xFE56), (0xFE5F, 0xFE5F), (0xFE64, 0xFE65), (0xFE68, 0xFE68), (0xFE6A, 0xFE6B),
  (0xFE70, 0xFE70), (0xFE72, 0xFE72), (0xFE74, 0xFE74), (0xFE76, 0xFE76), (0xFE78, 0xFE78),
  (0xFE7A, 0xFE7A), (0xFE7C, 0xFE7C), (0xFE7E, 0xFE7E), (0xFF03, 0xFF03), (0xFF05, 0xFF05),
  (0xFF0F, 0xFF0F), (0xFF1A, 0xFF1A), (0xFF1C, 0xFF1C), (0xFF1E, 0xFF20), (0xFF3B, 0xFF3E),
  (0xFF5C, 0xFF5C), (0xFFE3, 0xFFE3), (0xFFFC, 0xFFFD), (0x1F100, 0x1F100)]

/-- Runs of characters, and the run of those that a domain name writes for them. -/
def formRuns : List (Nat × Nat × Nat) := [
  (0xAA, 0xAA, 0x61), (0xB2, 0xB3, 0x32), (0xB9, 0xB9, 0x31), (0xBA, 0xBA, 0x6F),
  (0x17F, 0x17F, 0x73), (0x2B0, 0x2B0, 0x68), (0x2B2, 0x2B2, 0x6A), (0x2B3, 0x2B3, 0x72),
  (0x2B7, 0x2B7, 0x77), (0x2B8, 0x2B8, 0x79), (0x2E1, 0x2E1, 0x6C), (0x2E2, 0x2E2, 0x73),
  (0x2E3, 0x2E3, 0x78), (0x345, 0x345, 0x3B9), (0x37E, 0x37E, 0x3B), (0x13A0, 0x13F5, 0x13A0),
  (0x13F8, 0x13FD, 0x13F0), (0x1D2C, 0x1D2C, 0x61), (0x1D2E, 0x1D2E, 0x62),
  (0x1D30, 0x1D31, 0x64), (0x1D33, 0x1D3A, 0x67), (0x1D3C, 0x1D3C, 0x6F), (0x1D3E, 0x1D3E, 0x70),
  (0x1D3F, 0x1D3F, 0x72), (0x1D40, 0x1D41, 0x74), (0x1D42, 0x1D42, 0x77), (0x1D43, 0x1D43, 0x61),
  (0x1D47, 0x1D47, 0x62), (0x1D48, 0x1D49, 0x64), (0x1D4D, 0x1D4D, 0x67), (0x1D4F, 0x1D4F, 0x6B),
  (0x1D50, 0x1D50, 0x6D), (0x1D52, 0x1D52, 0x6F), (0x1D56, 0x1D56, 0x70), (0x1D57, 0x1D58, 0x74),
  (0x1D5B, 0x1D5B, 0x76), (0x1D62, 0x1D62, 0x69), (0x1D63, 0x1D63, 0x72), (0x1D64, 0x1D65, 0x75),
  (0x1D9C, 0x1D9C, 0x63), (0x1DA0, 0x1DA0, 0x66), (0x1DBB, 0x1DBB, 0x7A), (0x1FEF, 0x1FEF, 0x60),
  (0x2070, 0x2070, 0x30), (0x2071, 0x2071, 0x69), (0x2074, 0x2079, 0x34), (0x207A, 0x207A, 0x2B),
  (0x207C, 0x207C, 0x3D), (0x207D, 0x207E, 0x28), (0x207F, 0x207F, 0x6E), (0x2080, 0x2089, 0x30),
  (0x208A, 0x208A, 0x2B), (0x208C, 0x208C, 0x3D), (0x208D, 0x208E, 0x28), (0x2090, 0x2090, 0x61),
  (0x2091, 0x2091, 0x65), (0x2092, 0x2092, 0x6F), (0x2093, 0x2093, 0x78), (0x2095, 0x2095, 0x68),
  (0x2096, 0x2099, 0x6B), (0x209A, 0x209A, 0x70), (0x209B, 0x209C, 0x73), (0x2102, 0x2102, 0x63),
  (0x210A, 0x210B, 0x67), (0x210C, 0x210C, 0x68), (0x210D, 0x210D, 0x68), (0x210E, 0x210E, 0x68),
  (0x2110, 0x2110, 0x69), (0x2111, 0x2111, 0x69), (0x2112, 0x2112, 0x6C), (0x2113, 0x2113, 0x6C),
  (0x2115, 0x2115, 0x6E), (0x2119, 0x211B, 0x70), (0x211C, 0x211C, 0x72), (0x211D, 0x211D, 0x72),
  (0x2124, 0x2124, 0x7A), (0x2128, 0x2128, 0x7A), (0x212C, 0x212D, 0x62), (0x212F, 0x212F, 0x65),
  (0x2130, 0x2131, 0x65), (0x2133, 0x2133, 0x6D), (0x2134, 0x2134, 0x6F),
  (0x2135, 0x2138, 0x5D0), (0x2139, 0x2139, 0x69), (0x2145, 0x2145, 0x64),
  (0x2146, 0x2147, 0x64), (0x2148, 0x2149, 0x69), (0x2160, 0x2160, 0x69), (0x2164, 0x2164, 0x76),
  (0x2169, 0x2169, 0x78), (0x216C, 0x216C, 0x6C), (0x216D, 0x216E, 0x63), (0x216F, 0x216F, 0x6D),
  (0x2170, 0x2170, 0x69), (0x2174, 0x2174, 0x76), (0x2179, 0x2179, 0x78), (0x217C, 0x217C, 0x6C),
  (0x217D, 0x217E, 0x63), (0x217F, 0x217F, 0x6D), (0x2460, 0x2468, 0x31), (0x24B6, 0x24CF, 0x61),
  (0x24D0, 0x24E9, 0x61), (0x24EA, 0x24EA, 0x30), (0x2C7C, 0x2C7C, 0x6A), (0x2C7D, 0x2C7D, 0x76),
  (0xA7F1, 0xA7F1, 0x73), (0xA7F2, 0xA7F2, 0x63), (0xA7F3, 0xA7F3, 0x66), (0xA7F4, 0xA7F4, 0x71),
  (0xAB70, 0xABBF, 0x13A0), (0xFB29, 0xFB29, 0x2B), (0xFE10, 0xFE10, 0x2C),
  (0xFE14, 0xFE14, 0x3B), (0xFE15, 0xFE15, 0x21), (0xFE33, 0xFE33, 0x5F), (0xFE34, 0xFE34, 0x5F),
  (0xFE35, 0xFE36, 0x28), (0xFE37, 0xFE37, 0x7B), (0xFE38, 0xFE38, 0x7D), (0xFE4D, 0xFE4D, 0x5F),
  (0xFE4E, 0xFE4E, 0x5F), (0xFE4F, 0xFE4F, 0x5F), (0xFE50, 0xFE50, 0x2C), (0xFE54, 0xFE54, 0x3B),
  (0xFE57, 0xFE57, 0x21), (0xFE59, 0xFE5A, 0x28), (0xFE5B, 0xFE5B, 0x7B), (0xFE5C, 0xFE5C, 0x7D),
  (0xFE60, 0xFE60, 0x26), (0xFE61, 0xFE62, 0x2A), (0xFE63, 0xFE63, 0x2D), (0xFE66, 0xFE66, 0x3D),
  (0xFE69, 0xFE69, 0x24), (0xFF9E, 0xFF9F, 0x3099), (0x107A5, 0x107A5, 0x71),
  (0x1CCD6, 0x1CCEF, 0x61), (0x1CCF0, 0x1CCF9, 0x30), (0x1D400, 0x1D419, 0x61),
  (0x1D41A, 0x1D433, 0x61), (0x1D434, 0x1D44D, 0x61), (0x1D44E, 0x1D454, 0x61),
  (0x1D456, 0x1D467, 0x69), (0x1D468, 0x1D481, 0x61), (0x1D482, 0x1D49B, 0x61),
  (0x1D49C, 0x1D49C, 0x61), (0x1D49E, 0x1D49F, 0x63), (0x1D4A2, 0x1D4A2, 0x67),
  (0x1D4A5, 0x1D4A6, 0x6A), (0x1D4A9, 0x1D4AC, 0x6E), (0x1D4AE, 0x1D4B5, 0x73),
  (0x1D4B6, 0x1D4B9, 0x61), (0x1D4BB, 0x1D4BB, 0x66), (0x1D4BD, 0x1D4C3, 0x68),
  (0x1D4C5, 0x1D4CF, 0x70), (0x1D4D0, 0x1D4E9, 0x61), (0x1D4EA, 0x1D503, 0x61),
  (0x1D504, 0x1D505, 0x61), (0x1D507, 0x1D50A, 0x64), (0x1D50D, 0x1D514, 0x6A),
  (0x1D516, 0x1D51C, 0x73), (0x1D51E, 0x1D537, 0x61), (0x1D538, 0x1D539, 0x61),
  (0x1D53B, 0x1D53E, 0x64), (0x1D540, 0x1D544, 0x69), (0x1D546, 0x1D546, 0x6F),
  (0x1D54A, 0x1D550, 0x73), (0x1D552, 0x1D56B, 0x61), (0x1D56C, 0x1D585, 0x61),
  (0x1D586, 0x1D59F, 0x61), (0x1D5A0, 0x1D5B9, 0x61), (0x1D5BA, 0x1D5D3, 0x61),
  (0x1D5D4, 0x1D5ED, 0x61), (0x1D5EE, 0x1D607, 0x61), (0x1D608, 0x1D621, 0x61),
  (0x1D622, 0x1D63B, 0x61), (0x1D63C, 0x1D655, 0x61), (0x1D656, 0x1D66F, 0x61),
  (0x1D670, 0x1D689, 0x61), (0x1D68A, 0x1D6A3, 0x61), (0x1D7CE, 0x1D7D7, 0x30),
  (0x1D7D8, 0x1D7E1, 0x30), (0x1D7E2, 0x1D7EB, 0x30), (0x1D7EC, 0x1D7F5, 0x30),
  (0x1D7F6, 0x1D7FF, 0x30), (0x1F12B, 0x1F12B, 0x63), (0x1F12C, 0x1F12C, 0x72),
  (0x1F130, 0x1F149, 0x61), (0x1FBF0, 0x1FBF9, 0x30)]

/-- Runs of characters that show numbers in decimal, and the first of these numbers. -/
def numberRuns : List (Nat × Nat × Nat) := [
  (0x2469, 0x2473, 10), (0x3251, 0x325F, 21), (0x32B1, 0x32BF, 36)]

/-- Further characters that a domain name writes in another way. -/
def formedRanges : List (Nat × Nat) := [
  (0xB5, 0xB5), (0xBC, 0xBE), (0x132, 0x133), (0x13F, 0x140), (0x149, 0x149), (0x1C4, 0x1CC),
  (0x1F1, 0x1F3), (0x2B1, 0x2B1), (0x2B4, 0x2B6), (0x2E0, 0x2E0), (0x2E4, 0x2E4), (0x340, 0x341),
  (0x343, 0x344), (0x374, 0x374), (0x387, 0x387), (0x3D0, 0x3D6), (0x3F0, 0x3F2), (0x3F5, 0x3F5),
  (0x3F9, 0x3F9), (0x587, 0x587), (0x675, 0x678), (0x958, 0x95F), (0x9DC, 0x9DF), (0xA33, 0xA33),
  (0xA36, 0xA36), (0xA59, 0xA5B), (0xA5E, 0xA5E), (0xB5C, 0xB5D), (0xE33, 0xE33), (0xEB3, 0xEB3),
  (0xEDC, 0xEDD), (0xF0C, 0xF0C), (0xF43, 0xF43), (0xF4D, 0xF4D), (0xF52, 0xF52), (0xF57, 0xF57),
  (0xF5C, 0xF5C), (0xF69, 0xF69), (0xF73, 0xF73), (0xF75, 0xF79), (0xF81, 0xF81), (0xF93, 0xF93),
  (0xF9D, 0xF9D), (0xFA2, 0xFA2), (0xFA7, 0xFA7), (0xFAC, 0xFAC), (0xFB9, 0xFB9),
  (0x10FC, 0x10FC), (0x1C80, 0x1C88), (0x1D2D, 0x1D2D), (0x1D32, 0x1D32), (0x1D3D, 0x1D3D),
  (0x1D44, 0x1D46), (0x1D4A, 0x1D4C), (0x1D51, 0x1D51), (0x1D53, 0x1D55), (0x1D59, 0x1D5A),
  (0x1D5C, 0x1D61), (0x1D66, 0x1D6A), (0x1D78, 0x1D78), (0x1D9B, 0x1D9B), (0x1D9D, 0x1D9F),
  (0x1DA1, 0x1DBA), (0x1DBC, 0x1DBF), (0x1E9A, 0x1E9B), (0x1F71, 0x1F71), (0x1F73, 0x1F73),
  (0x1F75, 0x1F75), (0x1F77, 0x1F77), (0x1F79, 0x1F79), (0x1F7B, 0x1F7B), (0x1F7D, 0x1FAF),
  (0x1FB2, 0x1FB4), (0x1FB7, 0x1FB7), (0x1FBB, 0x1FC4), (0x1FC7, 0x1FC7), (0x1FC9, 0x1FC9),
  (0x1FCB, 0x1FCC), (0x1FD3, 0x1FD3), (0x1FDB, 0x1FDB), (0x1FE3, 0x1FE3), (0x1FEB, 0x1FEB),
  (0x1FF2, 0x1FF4), (0x1FF7, 0x1FF7), (0x1FF9, 0x1FF9), (0x1FFB, 0x1FFC), (0x2011, 0x2011),
  (0x2033, 0x2034), (0x2036, 0x2037), (0x203C, 0x203C), (0x2057, 0x2057), (0x207B, 0x207B),
  (0x208B, 0x208B), (0x2094, 0x2094), (0x20A8, 0x20A8), (0x2103, 0x2103), (0x2107, 0x2107),
  (0x2109, 0x2109), (0x210F, 0x210F), (0x2116, 0x2116), (0x2120, 0x2122), (0x213B, 0x2140),
  (0x2150, 0x215F), (0x2161, 0x2163), (0x2165, 0x2168), (0x216A, 0x216B), (0x2171, 0x2173),
  (0x2175, 0x2178), (0x217A, 0x217B), (0x2189, 0x2189), (0x222C, 0x222D), (0x222F, 0x2230),
  (0x2329, 0x232A), (0x2469, 0x24B5), (0x2A0C, 0x2A0C), (0x2A75, 0x2A76), (0x2ADC, 0x2ADC),
  (0x2D6F, 0x2D6F), (0x2E9F, 0x2E9F), (0x2EF3, 0x2FD5), (0x3036, 0x3036), (0x3038, 0x303A),
  (0x309F, 0x309F), (0x30FF, 0x30FF), (0x3131, 0x318E), (0x3192, 0x319F), (0x3200, 0x3247),
  (0x3250, 0x327E), (0x3280, 0x33FF), (0xA69C, 0xA69D), (0xA770, 0xA770), (0xA7F8, 0xA7F9),
  (0xAB5C, 0xAB5F), (0xAB69, 0xAB69), (0xF900, 0xFA0D), (0xFA10, 0xFA10), (0xFA12, 0xFA12),
  (0xFA15, 0xFA1E), (0xFA20, 0xFA20), (0xFA22, 0xFA22), (0xFA25, 0xFA26), (0xFA2A, 0xFB1D),
  (0xFB1F, 0xFB28), (0xFB2A, 0xFBB1), (0xFBD3, 0xFD3D), (0xFD50, 0xFD8F), (0xFD92, 0xFDC7),
  (0xFDF0, 0xFDFC), (0xFE11, 0xFE11), (0xFE17, 0xFE18), (0xFE31, 0xFE32), (0xFE39, 0xFE44),
  (0xFE51, 0xFE51), (0xFE58, 0xFE58), (0xFE5D, 0xFE5E), (0xFE71, 0xFE71), (0xFE77, 0xFEFC),
  (0xFF5F, 0xFF60), (0xFF62, 0xFF9D), (0xFFA1, 0xFFEE), (0x10781, 0x107A4), (0x107A6, 0x107BA),
  (0x10D50, 0x10D65), (0x1D15E, 0x1D164), (0x1D1BB, 0x1D1C0), (0x1D6A4, 0x1D7CB),
  (0x1E030, 0x1E06D), (0x1EE00, 0x1EEBB), (0x1F101, 0x1F10A), (0x1F110, 0x1F12A),
  (0x1F12D, 0x1F12E), (0x1F14A, 0x1F14F), (0x1F16A, 0x1F16C), (0x1F190, 0x1F190),
  (0x1F200, 0x1F251), (0x2F800, 0x2FA1D)]

end ChargingRegister.Url
