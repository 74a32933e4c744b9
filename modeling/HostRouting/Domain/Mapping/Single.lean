/-
**Domain name mapping: single images.**

Code points that map to one code point without following a run, such as the compatibility
ideographs, the radicals and the presentation forms of letters.

Main definitions:

* `Domain.singleImages` — stretches of code points with the images of each;
* `Domain.singleImage?` — the image of a code point.
-/

set_option autoImplicit false

namespace HostRouting.Domain

/-- Stretches of consecutive code points: the first of each, and the image of every member in
order, 0 for one that is not mapped here. -/
abbrev Stretches := List (Nat × List Nat)

/-- The letters and signs below the radicals. -/
def letterImages : Stretches := [
  (0x00A0, [0x0020]),
  (0x00AA, [0x0061]),
  (0x00B2, [0x0032, 0x0033, 0, 0x03BC, 0, 0, 0, 0x0031, 0x006F]),
  (0x0134, [0x0135, 0, 0x0137, 0, 0, 0x013A, 0, 0x013C, 0, 0x013E]),
  (0x0178, [
    0x00FF, 0x017A, 0, 0x017C, 0, 0x017E, 0, 0x0073, 0, 0x0253, 0x0183, 0, 0x0185, 0, 0x0254,
    0x0188, 0, 0x0256, 0x0257, 0x018C, 0, 0, 0x01DD, 0x0259, 0x025B, 0x0192, 0, 0x0260, 0x0263, 0,
    0x0269, 0x0268, 0x0199, 0, 0, 0, 0x026F, 0x0272, 0, 0x0275, 0x01A1, 0, 0x01A3, 0, 0x01A5, 0,
    0x0280, 0x01A8, 0, 0x0283, 0, 0, 0x01AD, 0, 0x0288, 0x01B0, 0, 0x028A, 0x028B, 0x01B4, 0,
    0x01B6, 0, 0x0292, 0x01B9, 0, 0, 0, 0x01BD]),
  (0x01F4, [0x01F5, 0, 0x0195, 0x01BF]),
  (0x0220, [0x019E]),
  (0x023A, [0x2C65, 0x023C, 0, 0x019A, 0x2C66, 0, 0, 0x0242, 0, 0x0180, 0x0289, 0x028C]),
  (0x02B0, [0x0068, 0x0266, 0x006A, 0x0072, 0x0279, 0x027B, 0x0281, 0x0077, 0x0079]),
  (0x02E0, [0x0263, 0x006C, 0x0073, 0x0078, 0x0295]),
  (0x0340, [0x0300, 0x0301, 0, 0x0313, 0, 0x03B9]),
  (0x0370, [0x0371, 0, 0x0373, 0, 0x02B9, 0, 0x0377]),
  (0x037E, [0x003B, 0x03F3]),
  (0x0386, [0x03AC, 0x00B7, 0x03AD, 0x03AE, 0x03AF, 0, 0x03CC, 0, 0x03CD, 0x03CE]),
  (0x03CF, [0x03D7, 0x03B2, 0x03B8, 0x03C5, 0x03CD, 0x03CB, 0x03C6, 0x03C0]),
  (0x03F0, [
    0x03BA, 0x03C1, 0x03C3, 0, 0x03B8, 0x03B5, 0, 0x03F8, 0, 0x03C3, 0x03FB, 0, 0, 0x037B, 0x037C,
    0x037D]),
  (0x04C0, [0x04CF]),
  (0x0F0C, [0x0F0B]),
  (0x10C7, [0x2D27]),
  (0x10CD, [0x2D2D]),
  (0x10FC, [0x10DC]),
  (0x1C80, [0x0432, 0x0434, 0x043E, 0x0441, 0x0442, 0x0442, 0x044A, 0x0463, 0xA64B, 0x1C8A]),
  (0x1CBD, [0x10FD, 0x10FE, 0x10FF]),
  (0x1D2C, [0x0061, 0x00E6, 0x0062, 0, 0x0064, 0x0065, 0x01DD]),
  (0x1D3C, [
    0x006F, 0x0223, 0x0070, 0x0072, 0x0074, 0x0075, 0x0077, 0x0061, 0x0250, 0x0251, 0x1D02,
    0x0062, 0x0064, 0x0065, 0x0259, 0x025B, 0x025C, 0x0067, 0, 0x006B, 0x006D, 0x014B, 0x006F,
    0x0254, 0x1D16, 0x1D17, 0x0070, 0x0074, 0x0075, 0x1D1D, 0x026F, 0x0076, 0x1D25, 0x03B2,
    0x03B3, 0x03B4, 0x03C6, 0x03C7, 0x0069, 0x0072, 0x0075, 0x0076, 0x03B2, 0x03B3, 0x03C1,
    0x03C6, 0x03C7]),
  (0x1D78, [0x043D]),
  (0x1D9B, [
    0x0252, 0x0063, 0x0255, 0x00F0, 0x025C, 0x0066, 0x025F, 0x0261, 0x0265, 0x0268, 0x0269,
    0x026A, 0x1D7B, 0x029D, 0x026D, 0x1D85, 0x029F, 0x0271, 0x0270]),
  (0x1DB2, [
    0x0278, 0x0282, 0x0283, 0x01AB, 0x0289, 0x028A, 0x1D1C, 0x028B, 0x028C, 0x007A, 0x0290,
    0x0291, 0x0292, 0x03B8]),
  (0x1E9B, [0x1E61, 0, 0, 0x00DF]),
  (0x1F71, [0x03AC, 0, 0x03AD, 0, 0x03AE, 0, 0x03AF, 0, 0x03CC, 0, 0x03CD, 0, 0x03CE]),
  (0x1FB8, [0x1FB0, 0x1FB1, 0x1F70, 0x03AC, 0, 0, 0x03B9]),
  (0x1FC8, [0x1F72, 0x03AD, 0x1F74, 0x03AE]),
  (0x1FD3, [0x0390]),
  (0x1FD8, [0x1FD0, 0x1FD1, 0x1F76, 0x03AF]),
  (0x1FE3, [0x03B0]),
  (0x1FE8, [0x1FE0, 0x1FE1, 0x1F7A, 0x03CD, 0x1FE5, 0, 0, 0x0060]),
  (0x1FF8, [0x1F78, 0x03CC, 0x1F7C, 0x03CE]),
  (0x2000, [
    0x0020, 0x0020, 0x0020, 0x0020, 0x0020, 0x0020, 0x0020, 0x0020, 0x0020, 0x0020, 0x0020]),
  (0x2011, [0x2010]),
  (0x202F, [0x0020]),
  (0x205F, [0x0020]),
  (0x2070, [0x0030, 0x0069]),
  (0x207A, [0x002B, 0x2212, 0x003D, 0x0028, 0x0029, 0x006E]),
  (0x208A, [
    0x002B, 0x2212, 0x003D, 0x0028, 0x0029, 0, 0x0061, 0x0065, 0x006F, 0x0078, 0x0259, 0x0068]),
  (0x209A, [0x0070, 0x0073, 0x0074]),
  (0x2102, [0x0063]),
  (0x2107, [
    0x025B, 0, 0, 0x0067, 0x0068, 0x0068, 0x0068, 0x0068, 0x0127, 0x0069, 0x0069, 0x006C, 0x006C,
    0, 0x006E, 0, 0, 0, 0x0070, 0x0071, 0x0072, 0x0072, 0x0072]),
  (0x2124, [
    0x007A, 0, 0x03C9, 0, 0x007A, 0, 0x006B, 0x00E5, 0x0062, 0x0063, 0, 0x0065, 0x0065, 0x0066,
    0x214E, 0x006D, 0x006F]),
  (0x2139, [0x0069, 0, 0, 0x03C0, 0x03B3, 0x03B3, 0x03C0, 0x2211]),
  (0x2145, [0x0064, 0x0064, 0x0065, 0x0069, 0x006A]),
  (0x2160, [0x0069, 0, 0, 0, 0x0076]),
  (0x2169, [0x0078, 0, 0, 0x006C, 0x0063, 0x0064, 0x006D, 0x0069, 0, 0, 0, 0x0076]),
  (0x2179, [0x0078, 0, 0, 0x006C, 0x0063, 0x0064, 0x006D, 0, 0, 0, 0x2184]),
  (0x2329, [0x3008, 0x3009]),
  (0x24EA, [0x0030]),
  (0x2C60, [
    0x2C61, 0, 0x026B, 0x1D7D, 0x027D, 0, 0, 0x2C68, 0, 0x2C6A, 0, 0x2C6C, 0, 0x0251, 0x0271,
    0x0250, 0x0252, 0, 0x2C73, 0, 0, 0x2C76]),
  (0x2C7C, [0x006A, 0x0076, 0x023F, 0x0240]),
  (0x2CEB, [0x2CEC, 0, 0x2CEE]),
  (0x2CF2, [0x2CF3]),
  (0x2D6F, [0x2D61])]

/-- The radicals, which map to the ideographs they are taken from. -/
def radicalImages : Stretches := [
  (0x2E9F, [0x6BCD]),
  (0x2EF3, [0x9F9F]),
  (0x2F00, [
    0x4E00, 0x4E28, 0x4E36, 0x4E3F, 0x4E59, 0x4E85, 0x4E8C, 0x4EA0, 0x4EBA, 0x513F, 0x5165,
    0x516B, 0x5182, 0x5196, 0x51AB, 0x51E0, 0x51F5, 0x5200, 0x529B, 0x52F9, 0x5315, 0x531A,
    0x5338, 0x5341, 0x535C, 0x5369, 0x5382, 0x53B6, 0x53C8, 0x53E3, 0x56D7, 0x571F, 0x58EB,
    0x5902, 0x590A, 0x5915, 0x5927, 0x5973, 0x5B50, 0x5B80, 0x5BF8, 0x5C0F, 0x5C22, 0x5C38,
    0x5C6E, 0x5C71, 0x5DDB, 0x5DE5, 0x5DF1, 0x5DFE, 0x5E72, 0x5E7A, 0x5E7F, 0x5EF4, 0x5EFE,
    0x5F0B, 0x5F13, 0x5F50, 0x5F61, 0x5F73, 0x5FC3, 0x6208, 0x6236, 0x624B, 0x652F, 0x6534,
    0x6587, 0x6597, 0x65A4, 0x65B9, 0x65E0, 0x65E5, 0x66F0, 0x6708, 0x6728, 0x6B20, 0x6B62,
    0x6B79, 0x6BB3, 0x6BCB, 0x6BD4, 0x6BDB, 0x6C0F, 0x6C14, 0x6C34, 0x706B, 0x722A, 0x7236,
    0x723B, 0x723F, 0x7247, 0x7259, 0x725B, 0x72AC, 0x7384, 0x7389, 0x74DC, 0x74E6, 0x7518,
    0x751F, 0x7528, 0x7530, 0x758B, 0x7592, 0x7676, 0x767D, 0x76AE, 0x76BF, 0x76EE, 0x77DB,
    0x77E2, 0x77F3, 0x793A, 0x79B8, 0x79BE, 0x7A74, 0x7ACB, 0x7AF9, 0x7C73, 0x7CF8, 0x7F36,
    0x7F51, 0x7F8A, 0x7FBD, 0x8001, 0x800C, 0x8012, 0x8033]),
  (0x2F80, [
    0x807F, 0x8089, 0x81E3, 0x81EA, 0x81F3, 0x81FC, 0x820C, 0x821B, 0x821F, 0x826E, 0x8272,
    0x8278, 0x864D, 0x866B, 0x8840, 0x884C, 0x8863, 0x897E, 0x898B, 0x89D2, 0x8A00, 0x8C37,
    0x8C46, 0x8C55, 0x8C78, 0x8C9D, 0x8D64, 0x8D70, 0x8DB3, 0x8EAB, 0x8ECA, 0x8F9B, 0x8FB0,
    0x8FB5, 0x9091, 0x9149, 0x91C6, 0x91CC, 0x91D1, 0x9577, 0x9580, 0x961C, 0x96B6, 0x96B9,
    0x96E8, 0x9751, 0x975E, 0x9762, 0x9769, 0x97CB, 0x97ED, 0x97F3, 0x9801, 0x98A8, 0x98DB,
    0x98DF, 0x9996, 0x9999, 0x99AC, 0x9AA8, 0x9AD8, 0x9ADF, 0x9B25, 0x9B2F, 0x9B32, 0x9B3C,
    0x9B5A, 0x9CE5, 0x9E75, 0x9E7F, 0x9EA5, 0x9EBB, 0x9EC3, 0x9ECD, 0x9ED1, 0x9EF9, 0x9EFD,
    0x9F0E, 0x9F13, 0x9F20, 0x9F3B, 0x9F4A, 0x9F52, 0x9F8D, 0x9F9C, 0x9FA0])]

/-- Kana, Hangul letters and enclosed signs, and the letters up to the surrogates. -/
def eastAsianImages : Stretches := [
  (0x3000, [0x0020, 0, 0x002E]),
  (0x3036, [0x3012, 0, 0x5341, 0x5344, 0x5345]),
  (0x3131, [0x1100, 0x1101, 0x11AA, 0x1102, 0x11AC, 0x11AD, 0x1103, 0x1104, 0x1105]),
  (0x3140, [0x111A, 0x1106, 0x1107, 0x1108, 0x1121]),
  (0x3165, [
    0x1114, 0x1115, 0x11C7, 0x11C8, 0x11CC, 0x11CE, 0x11D3, 0x11D7, 0x11D9, 0x111C, 0x11DD,
    0x11DF, 0x111D, 0x111E, 0x1120, 0x1122, 0x1123, 0x1127, 0x1129]),
  (0x317D, [
    0x1132, 0x1136, 0x1140, 0x1147, 0x114C, 0x11F1, 0x11F2, 0x1157, 0x1158, 0x1159, 0x1184,
    0x1185, 0x1188, 0x1191, 0x1192, 0x1194, 0x119E, 0x11A1, 0, 0, 0, 0x4E00, 0x4E8C, 0x4E09,
    0x56DB, 0x4E0A, 0x4E2D, 0x4E0B, 0x7532, 0x4E59, 0x4E19, 0x4E01, 0x5929, 0x5730, 0x4EBA]),
  (0x3244, [0x554F, 0x5E7C, 0x6587, 0x7B8F]),
  (0x3260, [0x1100, 0x1102, 0x1103, 0x1105, 0x1106, 0x1107, 0x1109, 0x110B, 0x110C]),
  (0x326E, [
    0xAC00, 0xB098, 0xB2E4, 0xB77C, 0xB9C8, 0xBC14, 0xC0AC, 0xC544, 0xC790, 0xCC28, 0xCE74,
    0xD0C0, 0xD30C, 0xD558, 0, 0, 0xC6B0, 0, 0x4E00, 0x4E8C, 0x4E09, 0x56DB, 0x4E94, 0x516D,
    0x4E03, 0x516B, 0x4E5D, 0x5341, 0x6708, 0x706B, 0x6C34, 0x6728, 0x91D1, 0x571F, 0x65E5,
    0x682A, 0x6709, 0x793E, 0x540D, 0x7279, 0x8CA1, 0x795D, 0x52B4, 0x79D8, 0x7537, 0x5973,
    0x9069, 0x512A, 0x5370, 0x6CE8, 0x9805, 0x4F11, 0x5199, 0x6B63, 0x4E0A, 0x4E2D, 0x4E0B,
    0x5DE6, 0x53F3, 0x533B, 0x5B97, 0x5B66, 0x76E3, 0x4F01, 0x8CC7, 0x5354, 0x591C]),
  (0x32D0, [
    0x30A2, 0x30A4, 0x30A6, 0x30A8, 0x30AA, 0x30AB, 0x30AD, 0x30AF, 0x30B1, 0x30B3, 0x30B5,
    0x30B7, 0x30B9, 0x30BB, 0x30BD, 0x30BF, 0x30C1, 0x30C4, 0x30C6, 0x30C8]),
  (0x32EA, [0x30D2, 0x30D5, 0x30D8, 0x30DB]),
  (0x32F3, [0x30E4, 0x30E6]),
  (0xA69C, [0x044A, 0x044C]),
  (0xA770, [0xA76F]),
  (0xA779, [0xA77A, 0, 0xA77C, 0, 0x1D79]),
  (0xA78B, [0xA78C, 0, 0x0265, 0, 0, 0xA791, 0, 0xA793]),
  (0xA7AA, [0x0266, 0x025C, 0x0261, 0x026C, 0x026A, 0, 0x029E, 0x0287, 0x029D, 0xAB53]),
  (0xA7C4, [0xA794, 0x0282, 0x1D8E, 0xA7C8, 0, 0xA7CA, 0, 0x0264]),
  (0xA7DC, [0x019B]),
  (0xA7F1, [0x0073, 0x0063, 0x0066, 0x0071, 0xA7F6, 0, 0, 0x0127, 0x0153]),
  (0xAB5C, [0xA727, 0xAB37, 0x026B, 0xAB52]),
  (0xAB69, [0x028D])]

/-- The compatibility ideographs. -/
def ideographImages : Stretches := [
  (0xF900, [
    0x8C48, 0x66F4, 0x8ECA, 0x8CC8, 0x6ED1, 0x4E32, 0x53E5, 0x9F9C, 0x9F9C, 0x5951, 0x91D1,
    0x5587, 0x5948, 0x61F6, 0x7669, 0x7F85, 0x863F, 0x87BA, 0x88F8, 0x908F, 0x6A02, 0x6D1B,
    0x70D9, 0x73DE, 0x843D, 0x916A, 0x99F1, 0x4E82, 0x5375, 0x6B04, 0x721B, 0x862D, 0x9E1E,
    0x5D50, 0x6FEB, 0x85CD, 0x8964, 0x62C9, 0x81D8, 0x881F, 0x5ECA, 0x6717, 0x6D6A, 0x72FC,
    0x90CE, 0x4F86, 0x51B7, 0x52DE, 0x64C4, 0x6AD3, 0x7210, 0x76E7, 0x8001, 0x8606, 0x865C,
    0x8DEF, 0x9732, 0x9B6F, 0x9DFA, 0x788C, 0x797F, 0x7DA0, 0x83C9, 0x9304, 0x9E7F, 0x8AD6,
    0x58DF, 0x5F04, 0x7C60, 0x807E, 0x7262, 0x78CA, 0x8CC2, 0x96F7, 0x58D8, 0x5C62, 0x6A13,
    0x6DDA, 0x6F0F, 0x7D2F, 0x7E37, 0x964B, 0x52D2, 0x808B, 0x51DC, 0x51CC, 0x7A1C, 0x7DBE,
    0x83F1, 0x9675, 0x8B80, 0x62CF, 0x6A02, 0x8AFE, 0x4E39, 0x5BE7, 0x6012, 0x7387, 0x7570,
    0x5317, 0x78FB, 0x4FBF, 0x5FA9, 0x4E0D, 0x6CCC, 0x6578, 0x7D22, 0x53C3, 0x585E, 0x7701,
    0x8449, 0x8AAA, 0x6BBA, 0x8FB0, 0x6C88, 0x62FE, 0x82E5, 0x63A0, 0x7565, 0x4EAE, 0x5169,
    0x51C9, 0x6881, 0x7CE7, 0x826F, 0x8AD2, 0x91CF, 0x52F5]),
  (0xF980, [
    0x5442, 0x5973, 0x5EEC, 0x65C5, 0x6FFE, 0x792A, 0x95AD, 0x9A6A, 0x9E97, 0x9ECE, 0x529B,
    0x66C6, 0x6B77, 0x8F62, 0x5E74, 0x6190, 0x6200, 0x649A, 0x6F23, 0x7149, 0x7489, 0x79CA,
    0x7DF4, 0x806F, 0x8F26, 0x84EE, 0x9023, 0x934A, 0x5217, 0x52A3, 0x54BD, 0x70C8, 0x88C2,
    0x8AAA, 0x5EC9, 0x5FF5, 0x637B, 0x6BAE, 0x7C3E, 0x7375, 0x4EE4, 0x56F9, 0x5BE7, 0x5DBA,
    0x601C, 0x73B2, 0x7469, 0x7F9A, 0x8046, 0x9234, 0x96F6, 0x9748, 0x9818, 0x4F8B, 0x79AE,
    0x91B4, 0x96B8, 0x60E1, 0x4E86, 0x50DA, 0x5BEE, 0x5C3F, 0x6599, 0x6A02, 0x71CE, 0x7642,
    0x84FC, 0x907C, 0x9F8D, 0x6688, 0x962E, 0x5289, 0x677B, 0x67F3, 0x6D41, 0x6E9C, 0x7409,
    0x7559, 0x786B, 0x7D10, 0x985E, 0x516D, 0x622E, 0x9678, 0x502B, 0x5D19, 0x6DEA, 0x8F2A,
    0x5F8B, 0x6144, 0x6817, 0x7387, 0x9686, 0x5229, 0x540F, 0x5C65, 0x6613, 0x674E, 0x68A8,
    0x6CE5, 0x7406, 0x75E2, 0x7F79, 0x88CF, 0x88E1, 0x91CC, 0x96E2, 0x533F, 0x6EBA, 0x541D,
    0x71D0, 0x7498, 0x85FA, 0x96A3, 0x9C57, 0x9E9F, 0x6797, 0x6DCB, 0x81E8, 0x7ACB, 0x7B20,
    0x7C92, 0x72C0, 0x7099, 0x8B58, 0x4EC0, 0x8336, 0x523A]),
  (0xFA00, [
    0x5207, 0x5EA6, 0x62D3, 0x7CD6, 0x5B85, 0x6D1E, 0x66B4, 0x8F3B, 0x884C, 0x964D, 0x898B,
    0x5ED3, 0x5140, 0x55C0, 0, 0, 0x585A, 0, 0x6674, 0, 0, 0x51DE, 0x732A, 0x76CA, 0x793C, 0x795E,
    0x7965, 0x798F, 0x9756, 0x7CBE, 0x7FBD, 0, 0x8612, 0, 0x8AF8, 0, 0, 0x9038, 0x90FD, 0, 0, 0,
    0x98EF, 0x98FC, 0x9928, 0x9DB4, 0x90DE, 0x96B7, 0x4FAE, 0x50E7, 0x514D, 0x52C9, 0x52E4,
    0x5351, 0x559D, 0x5606, 0x5668, 0x5840, 0x58A8, 0x5C64, 0x5C6E, 0x6094, 0x6168, 0x618E,
    0x61F2, 0x654F, 0x65E2, 0x6691, 0x6885, 0x6D77, 0x6E1A, 0x6F22, 0x716E, 0x722B, 0x7422,
    0x7891, 0x793E, 0x7949, 0x7948, 0x7950, 0x7956, 0x795D, 0x798D, 0x798E, 0x7A40, 0x7A81,
    0x7BC0, 0x7DF4, 0x7E09, 0x7E41, 0x7F72, 0x8005, 0x81ED, 0x8279, 0x8279, 0x8457, 0x8910,
    0x8996, 0x8B01, 0x8B39, 0x8CD3, 0x8D08, 0x8FB6, 0x9038, 0x96E3, 0x97FF, 0x983B, 0x6075,
    0x242EE, 0x8218, 0, 0, 0x4E26, 0x51B5, 0x5168, 0x4F80, 0x5145, 0x5180, 0x52C7, 0x52FA, 0x559D,
    0x5555, 0x5599, 0x55E2, 0x585A, 0x58B3, 0x5944, 0x5954]),
  (0xFA80, [
    0x5A62, 0x5B28, 0x5ED2, 0x5ED9, 0x5F69, 0x5FAD, 0x60D8, 0x614E, 0x6108, 0x618E, 0x6160,
    0x61F2, 0x6234, 0x63C4, 0x641C, 0x6452, 0x6556, 0x6674, 0x6717, 0x671B, 0x6756, 0x6B79,
    0x6BBA, 0x6D41, 0x6EDB, 0x6ECB, 0x6F22, 0x701E, 0x716E, 0x77A7, 0x7235, 0x72AF, 0x732A,
    0x7471, 0x7506, 0x753B, 0x761D, 0x761F, 0x76CA, 0x76DB, 0x76F4, 0x774A, 0x7740, 0x78CC,
    0x7AB1, 0x7BC0, 0x7C7B, 0x7D5B, 0x7DF4, 0x7F3E, 0x8005, 0x8352, 0x83EF, 0x8779, 0x8941,
    0x8986, 0x8996, 0x8ABF, 0x8AF8, 0x8ACB, 0x8B01, 0x8AFE, 0x8AED, 0x8B39, 0x8B8A, 0x8D08,
    0x8F38, 0x9072, 0x9199, 0x9276, 0x967C, 0x96E3, 0x9756, 0x97DB, 0x97FF, 0x980B, 0x983B,
    0x9B12, 0x9F9C, 0x2284A, 0x22844, 0x233D5, 0x3B9D, 0x4018, 0x4039, 0x25249, 0x25CD0, 0x27ED3,
    0x9F43, 0x9F8E])]

/-- The presentation forms and the forms of other widths. -/
def presentationImages : Stretches := [
  (0xFB20, [0x05E2, 0x05D0, 0x05D3, 0x05D4, 0x05DB, 0x05DC, 0x05DD, 0x05E8, 0x05EA, 0x002B]),
  (0xFB50, [
    0x0671, 0x0671, 0x067B, 0x067B, 0x067B, 0x067B, 0x067E, 0x067E, 0x067E, 0x067E, 0x0680,
    0x0680, 0x0680, 0x0680, 0x067A, 0x067A, 0x067A, 0x067A, 0x067F, 0x067F, 0x067F, 0x067F,
    0x0679, 0x0679, 0x0679, 0x0679, 0x06A4, 0x06A4, 0x06A4, 0x06A4, 0x06A6, 0x06A6, 0x06A6,
    0x06A6, 0x0684, 0x0684, 0x0684, 0x0684, 0x0683, 0x0683, 0x0683, 0x0683, 0x0686, 0x0686,
    0x0686, 0x0686, 0x0687, 0x0687, 0x0687, 0x0687, 0x068D, 0x068D, 0x068C, 0x068C, 0x068E,
    0x068E, 0x0688, 0x0688, 0x0698, 0x0698, 0x0691, 0x0691, 0x06A9, 0x06A9, 0x06A9, 0x06A9,
    0x06AF, 0x06AF, 0x06AF, 0x06AF, 0x06B3, 0x06B3, 0x06B3, 0x06B3, 0x06B1, 0x06B1, 0x06B1,
    0x06B1, 0x06BA, 0x06BA, 0x06BB, 0x06BB, 0x06BB, 0x06BB, 0x06C0, 0x06C0, 0x06C1, 0x06C1,
    0x06C1, 0x06C1, 0x06BE, 0x06BE, 0x06BE, 0x06BE, 0x06D2, 0x06D2, 0x06D3, 0x06D3]),
  (0xFBD3, [
    0x06AD, 0x06AD, 0x06AD, 0x06AD, 0x06C7, 0x06C7, 0x06C6, 0x06C6, 0x06C8, 0x06C8, 0, 0x06CB,
    0x06CB, 0x06C5, 0x06C5, 0x06C9, 0x06C9, 0x06D0, 0x06D0, 0x06D0, 0x06D0, 0x0649, 0x0649]),
  (0xFBFC, [0x06CC, 0x06CC, 0x06CC, 0x06CC]),
  (0xFE10, [0x002C, 0x3001, 0, 0x003A, 0x003B, 0x0021, 0x003F, 0x3016, 0x3017]),
  (0xFE31, [
    0x2014, 0x2013, 0x005F, 0x005F, 0x0028, 0x0029, 0x007B, 0x007D, 0x3014, 0x3015, 0x3010,
    0x3011, 0x300A, 0x300B, 0x3008, 0x3009]),
  (0xFE47, [0x005B, 0x005D]),
  (0xFE4D, [
    0x005F, 0x005F, 0x005F, 0x002C, 0x3001, 0, 0, 0x003B, 0x003A, 0x003F, 0x0021, 0x2014, 0x0028,
    0x0029, 0x007B, 0x007D, 0x3014, 0x3015, 0x0023, 0x0026, 0x002A, 0x002B, 0x002D, 0x003C,
    0x003E, 0x003D, 0, 0x005C, 0x0024, 0x0025, 0x0040]),
  (0xFE80, [
    0x0621, 0x0622, 0x0622, 0x0623, 0x0623, 0x0624, 0x0624, 0x0625, 0x0625, 0x0626, 0x0626,
    0x0626, 0x0626, 0x0627, 0x0627, 0x0628, 0x0628, 0x0628, 0x0628, 0x0629, 0x0629, 0x062A,
    0x062A, 0x062A, 0x062A, 0x062B, 0x062B, 0x062B, 0x062B, 0x062C, 0x062C, 0x062C, 0x062C,
    0x062D, 0x062D, 0x062D, 0x062D, 0x062E, 0x062E, 0x062E, 0x062E, 0x062F, 0x062F, 0x0630,
    0x0630, 0x0631, 0x0631, 0x0632, 0x0632, 0x0633, 0x0633, 0x0633, 0x0633, 0x0634, 0x0634,
    0x0634, 0x0634, 0x0635, 0x0635, 0x0635, 0x0635, 0x0636, 0x0636, 0x0636, 0x0636, 0x0637,
    0x0637, 0x0637, 0x0637, 0x0638, 0x0638, 0x0638, 0x0638, 0x0639, 0x0639, 0x0639, 0x0639,
    0x063A, 0x063A, 0x063A, 0x063A, 0x0641, 0x0641, 0x0641, 0x0641, 0x0642, 0x0642, 0x0642,
    0x0642, 0x0643, 0x0643, 0x0643, 0x0643, 0x0644, 0x0644, 0x0644, 0x0644, 0x0645, 0x0645,
    0x0645, 0x0645, 0x0646, 0x0646, 0x0646, 0x0646, 0x0647, 0x0647, 0x0647, 0x0647, 0x0648,
    0x0648, 0x0649, 0x0649, 0x064A, 0x064A, 0x064A, 0x064A]),
  (0xFF5F, [
    0x2985, 0x2986, 0x002E, 0x300C, 0x300D, 0x3001, 0x30FB, 0x30F2, 0x30A1, 0x30A3, 0x30A5,
    0x30A7, 0x30A9, 0x30E3, 0x30E5, 0x30E7, 0x30C3, 0x30FC, 0x30A2, 0x30A4, 0x30A6, 0x30A8,
    0x30AA, 0x30AB, 0x30AD, 0x30AF, 0x30B1, 0x30B3, 0x30B5, 0x30B7, 0x30B9, 0x30BB, 0x30BD,
    0x30BF, 0x30C1, 0x30C4, 0x30C6, 0x30C8]),
  (0xFF8B, [0x30D2, 0x30D5, 0x30D8, 0x30DB]),
  (0xFF94, [0x30E4, 0x30E6]),
  (0xFF9C, [
    0x30EF, 0x30F3, 0x3099, 0x309A, 0, 0x1100, 0x1101, 0x11AA, 0x1102, 0x11AC, 0x11AD, 0x1103,
    0x1104, 0x1105]),
  (0xFFB0, [0x111A, 0x1106, 0x1107, 0x1108, 0x1121]),
  (0xFFDA, [
    0x1173, 0x1174, 0x1175, 0, 0, 0, 0x00A2, 0x00A3, 0x00AC, 0, 0x00A6, 0x00A5, 0x20A9, 0,
    0x2502]),
  (0xFFED, [0x25A0, 0x25CB])]

/-- The letters and signs of the supplementary planes. -/
def supplementaryImages : Stretches := [
  (0x10594, [0x105BB, 0x105BC]),
  (0x10781, [
    0x02D0, 0x02D1, 0x00E6, 0x0299, 0x0253, 0, 0x02A3, 0xAB66, 0x02A5, 0x02A4, 0x0256, 0x0257,
    0x1D91, 0x0258, 0x025E, 0x02A9, 0x0264, 0x0262, 0x0260, 0x029B, 0x0127, 0x029C, 0x0267,
    0x0284, 0x02AA, 0x02AB, 0x026C, 0x1DF04, 0xA78E, 0x026E, 0x1DF05, 0x028E, 0x1DF06, 0x00F8,
    0x0276, 0x0277, 0x0071, 0x027A, 0x1DF08, 0x027D, 0x027E, 0x0280, 0x02A8, 0x02A6, 0xAB67,
    0x02A7, 0x0288, 0x2C71, 0, 0x028F, 0x02A1, 0x02A2, 0x0298, 0x01C0, 0x01C1, 0x01C2, 0x1DF0A,
    0x1DF1E]),
  (0x1D49C, [0x0061, 0, 0x0063, 0x0064, 0, 0, 0x0067, 0, 0, 0x006A, 0x006B]),
  (0x1D4BB, [0x0066]),
  (0x1D504, [0x0061, 0x0062]),
  (0x1D538, [0x0061, 0x0062]),
  (0x1D546, [0x006F]),
  (0x1D6A4, [0x0131, 0x0237]),
  (0x1D6B9, [0x03B8]),
  (0x1D6C1, [0x2207]),
  (0x1D6D3, [0x03C3]),
  (0x1D6DB, [0x2202, 0x03B5, 0x03B8, 0x03BA, 0x03C6, 0x03C1, 0x03C0]),
  (0x1D6F3, [0x03B8]),
  (0x1D6FB, [0x2207]),
  (0x1D70D, [0x03C3]),
  (0x1D715, [0x2202, 0x03B5, 0x03B8, 0x03BA, 0x03C6, 0x03C1, 0x03C0]),
  (0x1D72D, [0x03B8]),
  (0x1D735, [0x2207]),
  (0x1D747, [0x03C3]),
  (0x1D74F, [0x2202, 0x03B5, 0x03B8, 0x03BA, 0x03C6, 0x03C1, 0x03C0]),
  (0x1D767, [0x03B8]),
  (0x1D76F, [0x2207]),
  (0x1D781, [0x03C3]),
  (0x1D789, [0x2202, 0x03B5, 0x03B8, 0x03BA, 0x03C6, 0x03C1, 0x03C0]),
  (0x1D7A1, [0x03B8]),
  (0x1D7A9, [0x2207]),
  (0x1D7BB, [0x03C3]),
  (0x1D7C3, [0x2202, 0x03B5, 0x03B8, 0x03BA, 0x03C6, 0x03C1, 0x03C0, 0x03DD, 0x03DD]),
  (0x1E039, [0x043A, 0x043B, 0x043C]),
  (0x1E047, [0x044B, 0x044D, 0x044E, 0xA689, 0x04D9, 0x0456, 0x0458, 0x04E9, 0x04AF, 0x04CF]),
  (0x1E05A, [0x043A, 0x043B, 0x043E, 0x043F, 0x0441]),
  (0x1E065, [0x044A, 0x044B, 0x0491, 0x0456, 0x0455, 0x045F, 0x04AB, 0xA651, 0x04B1]),
  (0x1EE00, [0x0627, 0x0628, 0x062C, 0x062F, 0, 0x0648, 0x0632, 0x062D, 0x0637, 0x064A]),
  (0x1EE0E, [
    0x0633, 0x0639, 0x0641, 0x0635, 0x0642, 0x0631, 0x0634, 0x062A, 0x062B, 0x062E, 0x0630,
    0x0636, 0x0638, 0x063A, 0x066E, 0x06BA, 0x06A1, 0x066F, 0, 0x0628, 0x062C, 0, 0x0647, 0, 0,
    0x062D, 0, 0x064A]),
  (0x1EE2E, [
    0x0633, 0x0639, 0x0641, 0x0635, 0x0642, 0, 0x0634, 0x062A, 0x062B, 0x062E, 0, 0x0636, 0,
    0x063A]),
  (0x1EE42, [0x062C]),
  (0x1EE47, [
    0x062D, 0, 0x064A, 0, 0x0644, 0, 0x0646, 0x0633, 0x0639, 0, 0x0635, 0x0642, 0, 0x0634, 0, 0,
    0x062E, 0, 0x0636, 0, 0x063A, 0, 0x06BA, 0, 0x066F, 0, 0x0628, 0x062C, 0, 0x0647, 0, 0,
    0x062D, 0x0637, 0x064A, 0x0643, 0, 0x0645, 0x0646, 0x0633, 0x0639, 0x0641, 0x0635, 0x0642, 0,
    0x0634, 0x062A, 0x062B, 0x062E, 0, 0x0636, 0x0638, 0x063A, 0x066E, 0, 0x06A1, 0, 0x0627,
    0x0628, 0x062C, 0x062F, 0x0647, 0x0648, 0x0632, 0x062D, 0x0637, 0x064A, 0, 0x0644, 0x0645,
    0x0646, 0x0633, 0x0639, 0x0641, 0x0635, 0x0642, 0x0631, 0x0634, 0x062A, 0x062B, 0x062E,
    0x0630, 0x0636, 0x0638, 0x063A]),
  (0x1EEA1, [
    0x0628, 0x062C, 0x062F, 0, 0x0648, 0x0632, 0x062D, 0x0637, 0x064A, 0, 0x0644, 0x0645, 0x0646,
    0x0633, 0x0639, 0x0641, 0x0635, 0x0642, 0x0631, 0x0634, 0x062A, 0x062B, 0x062E, 0x0630,
    0x0636, 0x0638, 0x063A]),
  (0x1F12B, [0x0063, 0x0072]),
  (0x1F202, [0x30B5]),
  (0x1F210, [
    0x624B, 0x5B57, 0x53CC, 0x30C7, 0x4E8C, 0x591A, 0x89E3, 0x5929, 0x4EA4, 0x6620, 0x7121,
    0x6599, 0x524D, 0x5F8C, 0x518D, 0x65B0, 0x521D, 0x7D42, 0x751F, 0x8CA9, 0x58F0, 0x5439,
    0x6F14, 0x6295, 0x6355, 0x4E00, 0x4E09, 0x904A, 0x5DE6, 0x4E2D, 0x53F3, 0x6307, 0x8D70,
    0x6253, 0x7981, 0x7A7A, 0x5408, 0x6E80, 0x6709, 0x6708, 0x7533, 0x5272, 0x55B6, 0x914D]),
  (0x1F250, [0x5F97, 0x53EF])]

/-- The supplementary compatibility ideographs. -/
def supplementaryIdeographImages : Stretches := [
  (0x2F800, [
    0x4E3D, 0x4E38, 0x4E41, 0x20122, 0x4F60, 0x4FAE, 0x4FBB, 0x5002, 0x507A, 0x5099, 0x50E7,
    0x50CF, 0x349E, 0x2063A, 0x514D, 0x5154, 0x5164, 0x5177, 0x2051C, 0x34B9, 0x5167, 0x518D,
    0x2054B, 0x5197, 0x51A4, 0x4ECC, 0x51AC, 0x51B5, 0x291DF, 0x51F5, 0x5203, 0x34DF, 0x523B,
    0x5246, 0x5272, 0x5277, 0x3515, 0x52C7, 0x52C9, 0x52E4, 0x52FA, 0x5305, 0x5306, 0x5317,
    0x5349, 0x5351, 0x535A, 0x5373, 0x537D, 0x537F, 0x537F, 0x537F, 0x20A2C, 0x7070, 0x53CA,
    0x53DF, 0x20B63, 0x53EB, 0x53F1, 0x5406, 0x549E, 0x5438, 0x5448, 0x5468, 0x54A2, 0x54F6,
    0x5510, 0x5553, 0x5563, 0x5584, 0x5584, 0x5599, 0x55AB, 0x55B3, 0x55C2, 0x5716, 0x5606,
    0x5717, 0x5651, 0x5674, 0x5207, 0x58EE, 0x57CE, 0x57F4, 0x580D, 0x578B, 0x5832, 0x5831,
    0x58AC, 0x214E4, 0x58F2, 0x58F7, 0x5906, 0x591A, 0x5922, 0x5962, 0x216A8, 0x216EA, 0x59EC,
    0x5A1B, 0x5A27, 0x59D8, 0x5A66, 0x36EE, 0x36FC, 0x5B08, 0x5B3E, 0x5B3E, 0x219C8, 0x5BC3,
    0x5BD8, 0x5BE7, 0x5BF3, 0x21B18, 0x5BFF, 0x5C06, 0x5F53, 0x5C22, 0x3781, 0x5C60, 0x5C6E,
    0x5CC0, 0x5C8D, 0x21DE4, 0x5D43, 0x21DE6, 0x5D6E, 0x5D6B]),
  (0x2F880, [
    0x5D7C, 0x5DE1, 0x5DE2, 0x382F, 0x5DFD, 0x5E28, 0x5E3D, 0x5E69, 0x3862, 0x22183, 0x387C,
    0x5EB0, 0x5EB3, 0x5EB6, 0x5ECA, 0x2A392, 0x5EFE, 0x22331, 0x22331, 0x8201, 0x5F22, 0x5F22,
    0x38C7, 0x232B8, 0x261DA, 0x5F62, 0x5F6B, 0x38E3, 0x5F9A, 0x5FCD, 0x5FD7, 0x5FF9, 0x6081,
    0x393A, 0x391C, 0x6094, 0x226D4, 0x60C7, 0x6148, 0x614C, 0x614E, 0x614C, 0x617A, 0x618E,
    0x61B2, 0x61A4, 0x61AF, 0x61DE, 0x61F2, 0x61F6, 0x6210, 0x621B, 0x625D, 0x62B1, 0x62D4,
    0x6350, 0x22B0C, 0x633D, 0x62FC, 0x6368, 0x6383, 0x63E4, 0x22BF1, 0x6422, 0x63C5, 0x63A9,
    0x3A2E, 0x6469, 0x647E, 0x649D, 0x6477, 0x3A6C, 0x654F, 0x656C, 0x2300A, 0x65E3, 0x66F8,
    0x6649, 0x3B19, 0x6691, 0x3B08, 0x3AE4, 0x5192, 0x5195, 0x6700, 0x669C, 0x80AD, 0x43D9,
    0x6717, 0x671B, 0x6721, 0x675E, 0x6753, 0x233C3, 0x3B49, 0x67FA, 0x6785, 0x6852, 0x6885,
    0x2346D, 0x688E, 0x681F, 0x6914, 0x3B9D, 0x6942, 0x69A3, 0x69EA, 0x6AA8, 0x236A3, 0x6ADB,
    0x3C18, 0x6B21, 0x238A7, 0x6B54, 0x3C4E, 0x6B72, 0x6B9F, 0x6BBA, 0x6BBB, 0x23A8D, 0x21D0B,
    0x23AFA, 0x6C4E, 0x23CBC, 0x6CBF, 0x6CCD, 0x6C67, 0x6D16]),
  (0x2F900, [
    0x6D3E, 0x6D77, 0x6D41, 0x6D69, 0x6D78, 0x6D85, 0x23D1E, 0x6D34, 0x6E2F, 0x6E6E, 0x3D33,
    0x6ECB, 0x6EC7, 0x23ED1, 0x6DF9, 0x6F6E, 0x23F5E, 0x23F8E, 0x6FC6, 0x7039, 0x701E, 0x701B,
    0x3D96, 0x704A, 0x707D, 0x7077, 0x70AD, 0x20525, 0x7145, 0x24263, 0x719C, 0x243AB, 0x7228,
    0x7235, 0x7250, 0x24608, 0x7280, 0x7295, 0x24735, 0x24814, 0x737A, 0x738B, 0x3EAC, 0x73A5,
    0x3EB8, 0x3EB8, 0x7447, 0x745C, 0x7471, 0x7485, 0x74CA, 0x3F1B, 0x7524, 0x24C36, 0x753E,
    0x24C92, 0x7570, 0x2219F, 0x7610, 0x24FA1, 0x24FB8, 0x25044, 0x3FFC, 0x4008, 0x76F4, 0x250F3,
    0x250F2, 0x25119, 0x25133, 0x771E, 0x771F, 0x771F, 0x774A, 0x4039, 0x778B, 0x4046, 0x4096,
    0x2541D, 0x784E, 0x788C, 0x78CC, 0x40E3, 0x25626, 0x7956, 0x2569A, 0x256C5, 0x798F, 0x79EB,
    0x412F, 0x7A40, 0x7A4A, 0x7A4F, 0x2597C, 0x25AA7, 0x25AA7, 0x7AEE, 0x4202, 0x25BAB, 0x7BC6,
    0x7BC9, 0x4227, 0x25C80, 0x7CD2, 0x42A0, 0x7CE8, 0x7CE3, 0x7D00, 0x25F86, 0x7D63, 0x4301,
    0x7DC7, 0x7E02, 0x7E45, 0x4334, 0x26228, 0x26247, 0x4359, 0x262D9, 0x7F7A, 0x2633E, 0x7F95,
    0x7FFA, 0x8005, 0x264DA, 0x26523, 0x8060, 0x265A8, 0x8070]),
  (0x2F980, [
    0x2335F, 0x43D5, 0x80B2, 0x8103, 0x440B, 0x813E, 0x5AB5, 0x267A7, 0x267B5, 0x23393, 0x2339C,
    0x8201, 0x8204, 0x8F9E, 0x446B, 0x8291, 0x828B, 0x829D, 0x52B3, 0x82B1, 0x82B3, 0x82BD,
    0x82E6, 0x26B3C, 0x82E5, 0x831D, 0x8363, 0x83AD, 0x8323, 0x83BD, 0x83E7, 0x8457, 0x8353,
    0x83CA, 0x83CC, 0x83DC, 0x26C36, 0x26D6B, 0x26CD5, 0x452B, 0x84F1, 0x84F3, 0x8516, 0x273CA,
    0x8564, 0x26F2C, 0x455D, 0x4561, 0x26FB1, 0x270D2, 0x456B, 0x8650, 0x865C, 0x8667, 0x8669,
    0x86A9, 0x8688, 0x870E, 0x86E2, 0x8779, 0x8728, 0x876B, 0x8786, 0x45D7, 0x87E1, 0x8801,
    0x45F9, 0x8860, 0x8863, 0x27667, 0x88D7, 0x88DE, 0x4635, 0x88FA, 0x34BB, 0x278AE, 0x27966,
    0x46BE, 0x46C7, 0x8AA0, 0x8AED, 0x8B8A, 0x8C55, 0x27CA8, 0x8CAB, 0x8CC1, 0x8D1B, 0x8D77,
    0x27F2F, 0x20804, 0x8DCB, 0x8DBC, 0x8DF0, 0x208DE, 0x8ED4, 0x8F38, 0x285D2, 0x285ED, 0x9094,
    0x90F1, 0x9111, 0x2872E, 0x911B, 0x9238, 0x92D7, 0x92D8, 0x927C, 0x93F9, 0x9415, 0x28BFA,
    0x958B, 0x4995, 0x95B7, 0x28D77, 0x49E6, 0x96C3, 0x5DB2, 0x9723, 0x29145, 0x2921A, 0x4A6E,
    0x4A76, 0x97E0, 0x2940A, 0x4AB2, 0x29496, 0x980B, 0x980B]),
  (0x2FA00, [
    0x9829, 0x295B6, 0x98E2, 0x4B33, 0x9929, 0x99A7, 0x99C2, 0x99FE, 0x4BCE, 0x29B30, 0x9B12,
    0x9C40, 0x9CFD, 0x4CCE, 0x4CED, 0x9D67, 0x2A0CE, 0x4CF8, 0x2A105, 0x2A20E, 0x2A291, 0x9EBB,
    0x4D56, 0x9EF9, 0x9EFE, 0x9F05, 0x9F0F, 0x9F16, 0x9F3B, 0x2A600])]

/-- All stretches of single images, in increasing order. -/
def singleImages : List Stretches := [
  letterImages, radicalImages, eastAsianImages, ideographImages, presentationImages,
  supplementaryImages, supplementaryIdeographImages]

/-- The image that a stretch gives to a code point. -/
def stretchImage? (c : Nat) (stretch : Nat × List Nat) : Option Nat :=
  if stretch.1 ≤ c then (stretch.2[c - stretch.1]?).filter (· != 0) else none

/-- The single code point that `c` maps to. -/
def singleImage? (c : Nat) : Option Nat :=
  singleImages.findSome? (·.findSome? (stretchImage? c))

end HostRouting.Domain
