/-
**Domain name mapping: images of several characters.**

Ligatures, squared abbreviations, enclosed numbers and letters with a separate diacritic map to more
than one code point.

Main definitions:

* `Domain.sequenceImages` — stretches of code points with the images of each;
* `Domain.sequenceImage?` — the image of a code point.
-/

set_option autoImplicit false

namespace HostRouting.Domain

/-- Stretches of consecutive code points: the first of them, and the image of each in order, empty
for one that is not mapped here. -/
def sequenceImages : List (Nat × List (List Nat)) := [
  (0x00A8, [[0x0020, 0x0308]]),
  (0x00AF, [[0x0020, 0x0304]]),
  (0x00B4, [
    [0x0020, 0x0301], [], [], [], [0x0020, 0x0327], [], [], [], [0x0031, 0x2044, 0x0034],
    [0x0031, 0x2044, 0x0032], [0x0033, 0x2044, 0x0034]]),
  (0x0130, [[0x0069, 0x0307], [], [0x0069, 0x006A], [0x0069, 0x006A]]),
  (0x013F, [[0x006C, 0x00B7], [0x006C, 0x00B7]]),
  (0x0149, [[0x02BC, 0x006E]]),
  (0x01C4, [
    [0x0064, 0x017E], [0x0064, 0x017E], [0x0064, 0x017E], [0x006C, 0x006A], [0x006C, 0x006A],
    [0x006C, 0x006A], [0x006E, 0x006A], [0x006E, 0x006A], [0x006E, 0x006A]]),
  (0x01F1, [[0x0064, 0x007A], [0x0064, 0x007A], [0x0064, 0x007A]]),
  (0x02D8, [
    [0x0020, 0x0306], [0x0020, 0x0307], [0x0020, 0x030A], [0x0020, 0x0328], [0x0020, 0x0303],
    [0x0020, 0x030B]]),
  (0x0344, [[0x0308, 0x0301]]),
  (0x037A, [[0x0020, 0x03B9]]),
  (0x0384, [[0x0020, 0x0301], [0x0020, 0x0308, 0x0301]]),
  (0x0587, [[0x0565, 0x0582]]),
  (0x0675, [[0x0627, 0x0674], [0x0648, 0x0674], [0x06C7, 0x0674], [0x064A, 0x0674]]),
  (0x0958, [
    [0x0915, 0x093C], [0x0916, 0x093C], [0x0917, 0x093C], [0x091C, 0x093C], [0x0921, 0x093C],
    [0x0922, 0x093C], [0x092B, 0x093C], [0x092F, 0x093C]]),
  (0x09DC, [[0x09A1, 0x09BC], [0x09A2, 0x09BC], [], [0x09AF, 0x09BC]]),
  (0x0A33, [[0x0A32, 0x0A3C], [], [], [0x0A38, 0x0A3C]]),
  (0x0A59, [[0x0A16, 0x0A3C], [0x0A17, 0x0A3C], [0x0A1C, 0x0A3C], [], [], [0x0A2B, 0x0A3C]]),
  (0x0B5C, [[0x0B21, 0x0B3C], [0x0B22, 0x0B3C]]),
  (0x0E33, [[0x0E4D, 0x0E32]]),
  (0x0EB3, [[0x0ECD, 0x0EB2]]),
  (0x0EDC, [[0x0EAB, 0x0E99], [0x0EAB, 0x0EA1]]),
  (0x0F43, [[0x0F42, 0x0FB7]]),
  (0x0F4D, [[0x0F4C, 0x0FB7]]),
  (0x0F52, [[0x0F51, 0x0FB7]]),
  (0x0F57, [[0x0F56, 0x0FB7]]),
  (0x0F5C, [[0x0F5B, 0x0FB7]]),
  (0x0F69, [[0x0F40, 0x0FB5]]),
  (0x0F73, [
    [0x0F71, 0x0F72], [], [0x0F71, 0x0F74], [0x0FB2, 0x0F80], [0x0FB2, 0x0F71, 0x0F80],
    [0x0FB3, 0x0F80], [0x0FB3, 0x0F71, 0x0F80]]),
  (0x0F81, [[0x0F71, 0x0F80]]),
  (0x0F93, [[0x0F92, 0x0FB7]]),
  (0x0F9D, [[0x0F9C, 0x0FB7]]),
  (0x0FA2, [[0x0FA1, 0x0FB7]]),
  (0x0FA7, [[0x0FA6, 0x0FB7]]),
  (0x0FAC, [[0x0FAB, 0x0FB7]]),
  (0x0FB9, [[0x0F90, 0x0FB5]]),
  (0x1E9A, [[0x0061, 0x02BE]]),
  (0x1F80, [
    [0x1F00, 0x03B9], [0x1F01, 0x03B9], [0x1F02, 0x03B9], [0x1F03, 0x03B9], [0x1F04, 0x03B9],
    [0x1F05, 0x03B9], [0x1F06, 0x03B9], [0x1F07, 0x03B9], [0x1F00, 0x03B9], [0x1F01, 0x03B9],
    [0x1F02, 0x03B9], [0x1F03, 0x03B9], [0x1F04, 0x03B9], [0x1F05, 0x03B9], [0x1F06, 0x03B9],
    [0x1F07, 0x03B9], [0x1F20, 0x03B9], [0x1F21, 0x03B9], [0x1F22, 0x03B9], [0x1F23, 0x03B9],
    [0x1F24, 0x03B9], [0x1F25, 0x03B9], [0x1F26, 0x03B9], [0x1F27, 0x03B9], [0x1F20, 0x03B9],
    [0x1F21, 0x03B9], [0x1F22, 0x03B9], [0x1F23, 0x03B9], [0x1F24, 0x03B9], [0x1F25, 0x03B9],
    [0x1F26, 0x03B9], [0x1F27, 0x03B9], [0x1F60, 0x03B9], [0x1F61, 0x03B9], [0x1F62, 0x03B9],
    [0x1F63, 0x03B9], [0x1F64, 0x03B9], [0x1F65, 0x03B9], [0x1F66, 0x03B9], [0x1F67, 0x03B9],
    [0x1F60, 0x03B9], [0x1F61, 0x03B9], [0x1F62, 0x03B9], [0x1F63, 0x03B9], [0x1F64, 0x03B9],
    [0x1F65, 0x03B9], [0x1F66, 0x03B9], [0x1F67, 0x03B9], [], [], [0x1F70, 0x03B9],
    [0x03B1, 0x03B9], [0x03AC, 0x03B9], [], [], [0x1FB6, 0x03B9]]),
  (0x1FBC, [
    [0x03B1, 0x03B9], [0x0020, 0x0313], [], [0x0020, 0x0313], [0x0020, 0x0342],
    [0x0020, 0x0308, 0x0342], [0x1F74, 0x03B9], [0x03B7, 0x03B9], [0x03AE, 0x03B9], [], [],
    [0x1FC6, 0x03B9]]),
  (0x1FCC, [
    [0x03B7, 0x03B9], [0x0020, 0x0313, 0x0300], [0x0020, 0x0313, 0x0301],
    [0x0020, 0x0313, 0x0342]]),
  (0x1FDD, [[0x0020, 0x0314, 0x0300], [0x0020, 0x0314, 0x0301], [0x0020, 0x0314, 0x0342]]),
  (0x1FED, [
    [0x0020, 0x0308, 0x0300], [0x0020, 0x0308, 0x0301], [], [], [], [0x1F7C, 0x03B9],
    [0x03C9, 0x03B9], [0x03CE, 0x03B9], [], [], [0x1FF6, 0x03B9]]),
  (0x1FFC, [[0x03C9, 0x03B9], [0x0020, 0x0301], [0x0020, 0x0314]]),
  (0x2017, [[0x0020, 0x0333]]),
  (0x2033, [
    [0x2032, 0x2032], [0x2032, 0x2032, 0x2032], [], [0x2035, 0x2035], [0x2035, 0x2035, 0x2035]]),
  (0x203C, [[0x0021, 0x0021], [], [0x0020, 0x0305]]),
  (0x2047, [[0x003F, 0x003F], [0x003F, 0x0021], [0x0021, 0x003F]]),
  (0x2057, [[0x2032, 0x2032, 0x2032, 0x2032]]),
  (0x20A8, [[0x0072, 0x0073]]),
  (0x2100, [
    [0x0061, 0x002F, 0x0063], [0x0061, 0x002F, 0x0073], [], [0x00B0, 0x0063], [],
    [0x0063, 0x002F, 0x006F], [0x0063, 0x002F, 0x0075], [], [], [0x00B0, 0x0066]]),
  (0x2116, [[0x006E, 0x006F]]),
  (0x2120, [[0x0073, 0x006D], [0x0074, 0x0065, 0x006C], [0x0074, 0x006D]]),
  (0x213B, [[0x0066, 0x0061, 0x0078]]),
  (0x2150, [
    [0x0031, 0x2044, 0x0037], [0x0031, 0x2044, 0x0039], [0x0031, 0x2044, 0x0031, 0x0030],
    [0x0031, 0x2044, 0x0033], [0x0032, 0x2044, 0x0033], [0x0031, 0x2044, 0x0035],
    [0x0032, 0x2044, 0x0035], [0x0033, 0x2044, 0x0035], [0x0034, 0x2044, 0x0035],
    [0x0031, 0x2044, 0x0036], [0x0035, 0x2044, 0x0036], [0x0031, 0x2044, 0x0038],
    [0x0033, 0x2044, 0x0038], [0x0035, 0x2044, 0x0038], [0x0037, 0x2044, 0x0038],
    [0x0031, 0x2044], [], [0x0069, 0x0069], [0x0069, 0x0069, 0x0069], [0x0069, 0x0076], [],
    [0x0076, 0x0069], [0x0076, 0x0069, 0x0069], [0x0076, 0x0069, 0x0069, 0x0069],
    [0x0069, 0x0078], [], [0x0078, 0x0069], [0x0078, 0x0069, 0x0069]]),
  (0x2171, [
    [0x0069, 0x0069], [0x0069, 0x0069, 0x0069], [0x0069, 0x0076], [], [0x0076, 0x0069],
    [0x0076, 0x0069, 0x0069], [0x0076, 0x0069, 0x0069, 0x0069], [0x0069, 0x0078], [],
    [0x0078, 0x0069], [0x0078, 0x0069, 0x0069]]),
  (0x2189, [[0x0030, 0x2044, 0x0033]]),
  (0x222C, [
    [0x222B, 0x222B], [0x222B, 0x222B, 0x222B], [], [0x222E, 0x222E], [0x222E, 0x222E, 0x222E]]),
  (0x2469, [
    [0x0031, 0x0030], [0x0031, 0x0031], [0x0031, 0x0032], [0x0031, 0x0033], [0x0031, 0x0034],
    [0x0031, 0x0035], [0x0031, 0x0036], [0x0031, 0x0037], [0x0031, 0x0038], [0x0031, 0x0039],
    [0x0032, 0x0030], [0x0028, 0x0031, 0x0029], [0x0028, 0x0032, 0x0029],
    [0x0028, 0x0033, 0x0029], [0x0028, 0x0034, 0x0029], [0x0028, 0x0035, 0x0029],
    [0x0028, 0x0036, 0x0029], [0x0028, 0x0037, 0x0029], [0x0028, 0x0038, 0x0029],
    [0x0028, 0x0039, 0x0029], [0x0028, 0x0031, 0x0030, 0x0029], [0x0028, 0x0031, 0x0031, 0x0029],
    [0x0028, 0x0031, 0x0032, 0x0029], [0x0028, 0x0031, 0x0033, 0x0029],
    [0x0028, 0x0031, 0x0034, 0x0029], [0x0028, 0x0031, 0x0035, 0x0029],
    [0x0028, 0x0031, 0x0036, 0x0029], [0x0028, 0x0031, 0x0037, 0x0029],
    [0x0028, 0x0031, 0x0038, 0x0029], [0x0028, 0x0031, 0x0039, 0x0029],
    [0x0028, 0x0032, 0x0030, 0x0029]]),
  (0x249C, [
    [0x0028, 0x0061, 0x0029], [0x0028, 0x0062, 0x0029], [0x0028, 0x0063, 0x0029],
    [0x0028, 0x0064, 0x0029], [0x0028, 0x0065, 0x0029], [0x0028, 0x0066, 0x0029],
    [0x0028, 0x0067, 0x0029], [0x0028, 0x0068, 0x0029], [0x0028, 0x0069, 0x0029],
    [0x0028, 0x006A, 0x0029], [0x0028, 0x006B, 0x0029], [0x0028, 0x006C, 0x0029],
    [0x0028, 0x006D, 0x0029], [0x0028, 0x006E, 0x0029], [0x0028, 0x006F, 0x0029],
    [0x0028, 0x0070, 0x0029], [0x0028, 0x0071, 0x0029], [0x0028, 0x0072, 0x0029],
    [0x0028, 0x0073, 0x0029], [0x0028, 0x0074, 0x0029], [0x0028, 0x0075, 0x0029],
    [0x0028, 0x0076, 0x0029], [0x0028, 0x0077, 0x0029], [0x0028, 0x0078, 0x0029],
    [0x0028, 0x0079, 0x0029], [0x0028, 0x007A, 0x0029]]),
  (0x2A0C, [[0x222B, 0x222B, 0x222B, 0x222B]]),
  (0x2A74, [[0x003A, 0x003A, 0x003D], [0x003D, 0x003D], [0x003D, 0x003D, 0x003D]]),
  (0x2ADC, [[0x2ADD, 0x0338]]),
  (0x309B, [[0x0020, 0x3099], [0x0020, 0x309A], [], [], [0x3088, 0x308A]]),
  (0x30FF, [[0x30B3, 0x30C8]]),
  (0x3200, [
    [0x0028, 0x1100, 0x0029], [0x0028, 0x1102, 0x0029], [0x0028, 0x1103, 0x0029],
    [0x0028, 0x1105, 0x0029], [0x0028, 0x1106, 0x0029], [0x0028, 0x1107, 0x0029],
    [0x0028, 0x1109, 0x0029], [0x0028, 0x110B, 0x0029], [0x0028, 0x110C, 0x0029],
    [0x0028, 0x110E, 0x0029], [0x0028, 0x110F, 0x0029], [0x0028, 0x1110, 0x0029],
    [0x0028, 0x1111, 0x0029], [0x0028, 0x1112, 0x0029], [0x0028, 0xAC00, 0x0029],
    [0x0028, 0xB098, 0x0029], [0x0028, 0xB2E4, 0x0029], [0x0028, 0xB77C, 0x0029],
    [0x0028, 0xB9C8, 0x0029], [0x0028, 0xBC14, 0x0029], [0x0028, 0xC0AC, 0x0029],
    [0x0028, 0xC544, 0x0029], [0x0028, 0xC790, 0x0029], [0x0028, 0xCC28, 0x0029],
    [0x0028, 0xCE74, 0x0029], [0x0028, 0xD0C0, 0x0029], [0x0028, 0xD30C, 0x0029],
    [0x0028, 0xD558, 0x0029], [0x0028, 0xC8FC, 0x0029], [0x0028, 0xC624, 0xC804, 0x0029],
    [0x0028, 0xC624, 0xD6C4, 0x0029], [], [0x0028, 0x4E00, 0x0029], [0x0028, 0x4E8C, 0x0029],
    [0x0028, 0x4E09, 0x0029], [0x0028, 0x56DB, 0x0029], [0x0028, 0x4E94, 0x0029],
    [0x0028, 0x516D, 0x0029], [0x0028, 0x4E03, 0x0029], [0x0028, 0x516B, 0x0029],
    [0x0028, 0x4E5D, 0x0029], [0x0028, 0x5341, 0x0029], [0x0028, 0x6708, 0x0029],
    [0x0028, 0x706B, 0x0029], [0x0028, 0x6C34, 0x0029], [0x0028, 0x6728, 0x0029],
    [0x0028, 0x91D1, 0x0029], [0x0028, 0x571F, 0x0029], [0x0028, 0x65E5, 0x0029],
    [0x0028, 0x682A, 0x0029], [0x0028, 0x6709, 0x0029], [0x0028, 0x793E, 0x0029],
    [0x0028, 0x540D, 0x0029], [0x0028, 0x7279, 0x0029], [0x0028, 0x8CA1, 0x0029],
    [0x0028, 0x795D, 0x0029], [0x0028, 0x52B4, 0x0029], [0x0028, 0x4EE3, 0x0029],
    [0x0028, 0x547C, 0x0029], [0x0028, 0x5B66, 0x0029], [0x0028, 0x76E3, 0x0029],
    [0x0028, 0x4F01, 0x0029], [0x0028, 0x8CC7, 0x0029], [0x0028, 0x5354, 0x0029],
    [0x0028, 0x796D, 0x0029], [0x0028, 0x4F11, 0x0029], [0x0028, 0x81EA, 0x0029],
    [0x0028, 0x81F3, 0x0029]]),
  (0x3250, [
    [0x0070, 0x0074, 0x0065], [0x0032, 0x0031], [0x0032, 0x0032], [0x0032, 0x0033],
    [0x0032, 0x0034], [0x0032, 0x0035], [0x0032, 0x0036], [0x0032, 0x0037], [0x0032, 0x0038],
    [0x0032, 0x0039], [0x0033, 0x0030], [0x0033, 0x0031], [0x0033, 0x0032], [0x0033, 0x0033],
    [0x0033, 0x0034], [0x0033, 0x0035]]),
  (0x327C, [[0xCC38, 0xACE0], [0xC8FC, 0xC758]]),
  (0x32B1, [
    [0x0033, 0x0036], [0x0033, 0x0037], [0x0033, 0x0038], [0x0033, 0x0039], [0x0034, 0x0030],
    [0x0034, 0x0031], [0x0034, 0x0032], [0x0034, 0x0033], [0x0034, 0x0034], [0x0034, 0x0035],
    [0x0034, 0x0036], [0x0034, 0x0037], [0x0034, 0x0038], [0x0034, 0x0039], [0x0035, 0x0030],
    [0x0031, 0x6708], [0x0032, 0x6708], [0x0033, 0x6708], [0x0034, 0x6708], [0x0035, 0x6708],
    [0x0036, 0x6708], [0x0037, 0x6708], [0x0038, 0x6708], [0x0039, 0x6708],
    [0x0031, 0x0030, 0x6708], [0x0031, 0x0031, 0x6708], [0x0031, 0x0032, 0x6708],
    [0x0068, 0x0067], [0x0065, 0x0072, 0x0067], [0x0065, 0x0076], [0x006C, 0x0074, 0x0064]]),
  (0x32FF, [
    [0x4EE4, 0x548C], [0x30A2, 0x30D1, 0x30FC, 0x30C8], [0x30A2, 0x30EB, 0x30D5, 0x30A1],
    [0x30A2, 0x30F3, 0x30DA, 0x30A2], [0x30A2, 0x30FC, 0x30EB], [0x30A4, 0x30CB, 0x30F3, 0x30B0],
    [0x30A4, 0x30F3, 0x30C1], [0x30A6, 0x30A9, 0x30F3], [0x30A8, 0x30B9, 0x30AF, 0x30FC, 0x30C9],
    [0x30A8, 0x30FC, 0x30AB, 0x30FC], [0x30AA, 0x30F3, 0x30B9], [0x30AA, 0x30FC, 0x30E0],
    [0x30AB, 0x30A4, 0x30EA], [0x30AB, 0x30E9, 0x30C3, 0x30C8], [0x30AB, 0x30ED, 0x30EA, 0x30FC],
    [0x30AC, 0x30ED, 0x30F3], [0x30AC, 0x30F3, 0x30DE], [0x30AE, 0x30AC],
    [0x30AE, 0x30CB, 0x30FC], [0x30AD, 0x30E5, 0x30EA, 0x30FC], [0x30AE, 0x30EB, 0x30C0, 0x30FC],
    [0x30AD, 0x30ED], [0x30AD, 0x30ED, 0x30B0, 0x30E9, 0x30E0],
    [0x30AD, 0x30ED, 0x30E1, 0x30FC, 0x30C8, 0x30EB], [0x30AD, 0x30ED, 0x30EF, 0x30C3, 0x30C8],
    [0x30B0, 0x30E9, 0x30E0], [0x30B0, 0x30E9, 0x30E0, 0x30C8, 0x30F3],
    [0x30AF, 0x30EB, 0x30BC, 0x30A4, 0x30ED], [0x30AF, 0x30ED, 0x30FC, 0x30CD],
    [0x30B1, 0x30FC, 0x30B9], [0x30B3, 0x30EB, 0x30CA], [0x30B3, 0x30FC, 0x30DD],
    [0x30B5, 0x30A4, 0x30AF, 0x30EB], [0x30B5, 0x30F3, 0x30C1, 0x30FC, 0x30E0],
    [0x30B7, 0x30EA, 0x30F3, 0x30B0], [0x30BB, 0x30F3, 0x30C1], [0x30BB, 0x30F3, 0x30C8],
    [0x30C0, 0x30FC, 0x30B9], [0x30C7, 0x30B7], [0x30C9, 0x30EB], [0x30C8, 0x30F3],
    [0x30CA, 0x30CE], [0x30CE, 0x30C3, 0x30C8], [0x30CF, 0x30A4, 0x30C4],
    [0x30D1, 0x30FC, 0x30BB, 0x30F3, 0x30C8], [0x30D1, 0x30FC, 0x30C4],
    [0x30D0, 0x30FC, 0x30EC, 0x30EB], [0x30D4, 0x30A2, 0x30B9, 0x30C8, 0x30EB],
    [0x30D4, 0x30AF, 0x30EB], [0x30D4, 0x30B3], [0x30D3, 0x30EB],
    [0x30D5, 0x30A1, 0x30E9, 0x30C3, 0x30C9], [0x30D5, 0x30A3, 0x30FC, 0x30C8],
    [0x30D6, 0x30C3, 0x30B7, 0x30A7, 0x30EB], [0x30D5, 0x30E9, 0x30F3],
    [0x30D8, 0x30AF, 0x30BF, 0x30FC, 0x30EB], [0x30DA, 0x30BD], [0x30DA, 0x30CB, 0x30D2],
    [0x30D8, 0x30EB, 0x30C4], [0x30DA, 0x30F3, 0x30B9], [0x30DA, 0x30FC, 0x30B8],
    [0x30D9, 0x30FC, 0x30BF], [0x30DD, 0x30A4, 0x30F3, 0x30C8], [0x30DC, 0x30EB, 0x30C8],
    [0x30DB, 0x30F3], [0x30DD, 0x30F3, 0x30C9], [0x30DB, 0x30FC, 0x30EB],
    [0x30DB, 0x30FC, 0x30F3], [0x30DE, 0x30A4, 0x30AF, 0x30ED], [0x30DE, 0x30A4, 0x30EB],
    [0x30DE, 0x30C3, 0x30CF], [0x30DE, 0x30EB, 0x30AF], [0x30DE, 0x30F3, 0x30B7, 0x30E7, 0x30F3],
    [0x30DF, 0x30AF, 0x30ED, 0x30F3], [0x30DF, 0x30EA], [0x30DF, 0x30EA, 0x30D0, 0x30FC, 0x30EB],
    [0x30E1, 0x30AC], [0x30E1, 0x30AC, 0x30C8, 0x30F3], [0x30E1, 0x30FC, 0x30C8, 0x30EB],
    [0x30E4, 0x30FC, 0x30C9], [0x30E4, 0x30FC, 0x30EB], [0x30E6, 0x30A2, 0x30F3],
    [0x30EA, 0x30C3, 0x30C8, 0x30EB], [0x30EA, 0x30E9], [0x30EB, 0x30D4, 0x30FC],
    [0x30EB, 0x30FC, 0x30D6, 0x30EB], [0x30EC, 0x30E0], [0x30EC, 0x30F3, 0x30C8, 0x30B2, 0x30F3],
    [0x30EF, 0x30C3, 0x30C8], [0x0030, 0x70B9], [0x0031, 0x70B9], [0x0032, 0x70B9],
    [0x0033, 0x70B9], [0x0034, 0x70B9], [0x0035, 0x70B9], [0x0036, 0x70B9], [0x0037, 0x70B9],
    [0x0038, 0x70B9], [0x0039, 0x70B9], [0x0031, 0x0030, 0x70B9], [0x0031, 0x0031, 0x70B9],
    [0x0031, 0x0032, 0x70B9], [0x0031, 0x0033, 0x70B9], [0x0031, 0x0034, 0x70B9],
    [0x0031, 0x0035, 0x70B9], [0x0031, 0x0036, 0x70B9], [0x0031, 0x0037, 0x70B9],
    [0x0031, 0x0038, 0x70B9], [0x0031, 0x0039, 0x70B9], [0x0032, 0x0030, 0x70B9],
    [0x0032, 0x0031, 0x70B9], [0x0032, 0x0032, 0x70B9], [0x0032, 0x0033, 0x70B9],
    [0x0032, 0x0034, 0x70B9], [0x0068, 0x0070, 0x0061], [0x0064, 0x0061], [0x0061, 0x0075],
    [0x0062, 0x0061, 0x0072], [0x006F, 0x0076], [0x0070, 0x0063], [0x0064, 0x006D],
    [0x0064, 0x006D, 0x0032], [0x0064, 0x006D, 0x0033], [0x0069, 0x0075], [0x5E73, 0x6210],
    [0x662D, 0x548C], [0x5927, 0x6B63], [0x660E, 0x6CBB]]),
  (0x337F, [
    [0x682A, 0x5F0F, 0x4F1A, 0x793E], [0x0070, 0x0061], [0x006E, 0x0061], [0x03BC, 0x0061],
    [0x006D, 0x0061], [0x006B, 0x0061], [0x006B, 0x0062], [0x006D, 0x0062], [0x0067, 0x0062],
    [0x0063, 0x0061, 0x006C], [0x006B, 0x0063, 0x0061, 0x006C], [0x0070, 0x0066],
    [0x006E, 0x0066], [0x03BC, 0x0066], [0x03BC, 0x0067], [0x006D, 0x0067], [0x006B, 0x0067],
    [0x0068, 0x007A], [0x006B, 0x0068, 0x007A], [0x006D, 0x0068, 0x007A],
    [0x0067, 0x0068, 0x007A], [0x0074, 0x0068, 0x007A], [0x03BC, 0x006C], [0x006D, 0x006C],
    [0x0064, 0x006C], [0x006B, 0x006C], [0x0066, 0x006D], [0x006E, 0x006D], [0x03BC, 0x006D],
    [0x006D, 0x006D], [0x0063, 0x006D], [0x006B, 0x006D], [0x006D, 0x006D, 0x0032],
    [0x0063, 0x006D, 0x0032], [0x006D, 0x0032], [0x006B, 0x006D, 0x0032],
    [0x006D, 0x006D, 0x0033], [0x0063, 0x006D, 0x0033], [0x006D, 0x0033],
    [0x006B, 0x006D, 0x0033], [0x006D, 0x2215, 0x0073], [0x006D, 0x2215, 0x0073, 0x0032],
    [0x0070, 0x0061], [0x006B, 0x0070, 0x0061], [0x006D, 0x0070, 0x0061],
    [0x0067, 0x0070, 0x0061], [0x0072, 0x0061, 0x0064], [0x0072, 0x0061, 0x0064, 0x2215, 0x0073],
    [0x0072, 0x0061, 0x0064, 0x2215, 0x0073, 0x0032], [0x0070, 0x0073], [0x006E, 0x0073],
    [0x03BC, 0x0073], [0x006D, 0x0073], [0x0070, 0x0076], [0x006E, 0x0076], [0x03BC, 0x0076],
    [0x006D, 0x0076], [0x006B, 0x0076], [0x006D, 0x0076], [0x0070, 0x0077], [0x006E, 0x0077],
    [0x03BC, 0x0077], [0x006D, 0x0077], [0x006B, 0x0077], [0x006D, 0x0077], [0x006B, 0x03C9],
    [0x006D, 0x03C9], [], [0x0062, 0x0071], [0x0063, 0x0063], [0x0063, 0x0064],
    [0x0063, 0x2215, 0x006B, 0x0067], [], [0x0064, 0x0062], [0x0067, 0x0079], [0x0068, 0x0061],
    [0x0068, 0x0070], [0x0069, 0x006E], [0x006B, 0x006B], [0x006B, 0x006D], [0x006B, 0x0074],
    [0x006C, 0x006D], [0x006C, 0x006E], [0x006C, 0x006F, 0x0067], [0x006C, 0x0078],
    [0x006D, 0x0062], [0x006D, 0x0069, 0x006C], [0x006D, 0x006F, 0x006C], [0x0070, 0x0068], [],
    [0x0070, 0x0070, 0x006D], [0x0070, 0x0072], [0x0073, 0x0072], [0x0073, 0x0076],
    [0x0077, 0x0062], [0x0076, 0x2215, 0x006D], [0x0061, 0x2215, 0x006D], [0x0031, 0x65E5],
    [0x0032, 0x65E5], [0x0033, 0x65E5], [0x0034, 0x65E5], [0x0035, 0x65E5], [0x0036, 0x65E5],
    [0x0037, 0x65E5], [0x0038, 0x65E5], [0x0039, 0x65E5], [0x0031, 0x0030, 0x65E5],
    [0x0031, 0x0031, 0x65E5], [0x0031, 0x0032, 0x65E5], [0x0031, 0x0033, 0x65E5],
    [0x0031, 0x0034, 0x65E5], [0x0031, 0x0035, 0x65E5], [0x0031, 0x0036, 0x65E5],
    [0x0031, 0x0037, 0x65E5], [0x0031, 0x0038, 0x65E5], [0x0031, 0x0039, 0x65E5],
    [0x0032, 0x0030, 0x65E5], [0x0032, 0x0031, 0x65E5], [0x0032, 0x0032, 0x65E5],
    [0x0032, 0x0033, 0x65E5], [0x0032, 0x0034, 0x65E5], [0x0032, 0x0035, 0x65E5],
    [0x0032, 0x0036, 0x65E5], [0x0032, 0x0037, 0x65E5], [0x0032, 0x0038, 0x65E5],
    [0x0032, 0x0039, 0x65E5], [0x0033, 0x0030, 0x65E5], [0x0033, 0x0031, 0x65E5]]),
  (0x33FF, [[0x0067, 0x0061, 0x006C]]),
  (0xFB00, [
    [0x0066, 0x0066], [0x0066, 0x0069], [0x0066, 0x006C], [0x0066, 0x0066, 0x0069],
    [0x0066, 0x0066, 0x006C], [0x0073, 0x0074], [0x0073, 0x0074]]),
  (0xFB13, [
    [0x0574, 0x0576], [0x0574, 0x0565], [0x0574, 0x056B], [0x057E, 0x0576], [0x0574, 0x056D]]),
  (0xFB1D, [[0x05D9, 0x05B4], [], [0x05F2, 0x05B7]]),
  (0xFB2A, [
    [0x05E9, 0x05C1], [0x05E9, 0x05C2], [0x05E9, 0x05BC, 0x05C1], [0x05E9, 0x05BC, 0x05C2],
    [0x05D0, 0x05B7], [0x05D0, 0x05B8], [0x05D0, 0x05BC], [0x05D1, 0x05BC], [0x05D2, 0x05BC],
    [0x05D3, 0x05BC], [0x05D4, 0x05BC], [0x05D5, 0x05BC], [0x05D6, 0x05BC], [], [0x05D8, 0x05BC],
    [0x05D9, 0x05BC], [0x05DA, 0x05BC], [0x05DB, 0x05BC], [0x05DC, 0x05BC], [], [0x05DE, 0x05BC],
    [], [0x05E0, 0x05BC], [0x05E1, 0x05BC], [], [0x05E3, 0x05BC], [0x05E4, 0x05BC], [],
    [0x05E6, 0x05BC], [0x05E7, 0x05BC], [0x05E8, 0x05BC], [0x05E9, 0x05BC], [0x05EA, 0x05BC],
    [0x05D5, 0x05B9], [0x05D1, 0x05BF], [0x05DB, 0x05BF], [0x05E4, 0x05BF], [0x05D0, 0x05DC]]),
  (0xFBDD, [[0x06C7, 0x0674]]),
  (0xFBEA, [
    [0x0626, 0x0627], [0x0626, 0x0627], [0x0626, 0x06D5], [0x0626, 0x06D5], [0x0626, 0x0648],
    [0x0626, 0x0648], [0x0626, 0x06C7], [0x0626, 0x06C7], [0x0626, 0x06C6], [0x0626, 0x06C6],
    [0x0626, 0x06C8], [0x0626, 0x06C8], [0x0626, 0x06D0], [0x0626, 0x06D0], [0x0626, 0x06D0],
    [0x0626, 0x0649], [0x0626, 0x0649], [0x0626, 0x0649]]),
  (0xFC00, [
    [0x0626, 0x062C], [0x0626, 0x062D], [0x0626, 0x0645], [0x0626, 0x0649], [0x0626, 0x064A],
    [0x0628, 0x062C], [0x0628, 0x062D], [0x0628, 0x062E], [0x0628, 0x0645], [0x0628, 0x0649],
    [0x0628, 0x064A], [0x062A, 0x062C], [0x062A, 0x062D], [0x062A, 0x062E], [0x062A, 0x0645],
    [0x062A, 0x0649], [0x062A, 0x064A], [0x062B, 0x062C], [0x062B, 0x0645], [0x062B, 0x0649],
    [0x062B, 0x064A], [0x062C, 0x062D], [0x062C, 0x0645], [0x062D, 0x062C], [0x062D, 0x0645],
    [0x062E, 0x062C], [0x062E, 0x062D], [0x062E, 0x0645], [0x0633, 0x062C], [0x0633, 0x062D],
    [0x0633, 0x062E], [0x0633, 0x0645], [0x0635, 0x062D], [0x0635, 0x0645], [0x0636, 0x062C],
    [0x0636, 0x062D], [0x0636, 0x062E], [0x0636, 0x0645], [0x0637, 0x062D], [0x0637, 0x0645],
    [0x0638, 0x0645], [0x0639, 0x062C], [0x0639, 0x0645], [0x063A, 0x062C], [0x063A, 0x0645],
    [0x0641, 0x062C], [0x0641, 0x062D], [0x0641, 0x062E], [0x0641, 0x0645], [0x0641, 0x0649],
    [0x0641, 0x064A], [0x0642, 0x062D], [0x0642, 0x0645], [0x0642, 0x0649], [0x0642, 0x064A],
    [0x0643, 0x0627], [0x0643, 0x062C], [0x0643, 0x062D], [0x0643, 0x062E], [0x0643, 0x0644],
    [0x0643, 0x0645], [0x0643, 0x0649], [0x0643, 0x064A], [0x0644, 0x062C], [0x0644, 0x062D],
    [0x0644, 0x062E], [0x0644, 0x0645], [0x0644, 0x0649], [0x0644, 0x064A], [0x0645, 0x062C],
    [0x0645, 0x062D], [0x0645, 0x062E], [0x0645, 0x0645], [0x0645, 0x0649], [0x0645, 0x064A],
    [0x0646, 0x062C], [0x0646, 0x062D], [0x0646, 0x062E], [0x0646, 0x0645], [0x0646, 0x0649],
    [0x0646, 0x064A], [0x0647, 0x062C], [0x0647, 0x0645], [0x0647, 0x0649], [0x0647, 0x064A],
    [0x064A, 0x062C], [0x064A, 0x062D], [0x064A, 0x062E], [0x064A, 0x0645], [0x064A, 0x0649],
    [0x064A, 0x064A], [0x0630, 0x0670], [0x0631, 0x0670], [0x0649, 0x0670],
    [0x0020, 0x064C, 0x0651], [0x0020, 0x064D, 0x0651], [0x0020, 0x064E, 0x0651],
    [0x0020, 0x064F, 0x0651], [0x0020, 0x0650, 0x0651], [0x0020, 0x0651, 0x0670],
    [0x0626, 0x0631], [0x0626, 0x0632], [0x0626, 0x0645], [0x0626, 0x0646], [0x0626, 0x0649],
    [0x0626, 0x064A], [0x0628, 0x0631], [0x0628, 0x0632], [0x0628, 0x0645], [0x0628, 0x0646],
    [0x0628, 0x0649], [0x0628, 0x064A], [0x062A, 0x0631], [0x062A, 0x0632], [0x062A, 0x0645],
    [0x062A, 0x0646], [0x062A, 0x0649], [0x062A, 0x064A], [0x062B, 0x0631], [0x062B, 0x0632],
    [0x062B, 0x0645], [0x062B, 0x0646], [0x062B, 0x0649], [0x062B, 0x064A], [0x0641, 0x0649],
    [0x0641, 0x064A], [0x0642, 0x0649], [0x0642, 0x064A]]),
  (0xFC80, [
    [0x0643, 0x0627], [0x0643, 0x0644], [0x0643, 0x0645], [0x0643, 0x0649], [0x0643, 0x064A],
    [0x0644, 0x0645], [0x0644, 0x0649], [0x0644, 0x064A], [0x0645, 0x0627], [0x0645, 0x0645],
    [0x0646, 0x0631], [0x0646, 0x0632], [0x0646, 0x0645], [0x0646, 0x0646], [0x0646, 0x0649],
    [0x0646, 0x064A], [0x0649, 0x0670], [0x064A, 0x0631], [0x064A, 0x0632], [0x064A, 0x0645],
    [0x064A, 0x0646], [0x064A, 0x0649], [0x064A, 0x064A], [0x0626, 0x062C], [0x0626, 0x062D],
    [0x0626, 0x062E], [0x0626, 0x0645], [0x0626, 0x0647], [0x0628, 0x062C], [0x0628, 0x062D],
    [0x0628, 0x062E], [0x0628, 0x0645], [0x0628, 0x0647], [0x062A, 0x062C], [0x062A, 0x062D],
    [0x062A, 0x062E], [0x062A, 0x0645], [0x062A, 0x0647], [0x062B, 0x0645], [0x062C, 0x062D],
    [0x062C, 0x0645], [0x062D, 0x062C], [0x062D, 0x0645], [0x062E, 0x062C], [0x062E, 0x0645],
    [0x0633, 0x062C], [0x0633, 0x062D], [0x0633, 0x062E], [0x0633, 0x0645], [0x0635, 0x062D],
    [0x0635, 0x062E], [0x0635, 0x0645], [0x0636, 0x062C], [0x0636, 0x062D], [0x0636, 0x062E],
    [0x0636, 0x0645], [0x0637, 0x062D], [0x0638, 0x0645], [0x0639, 0x062C], [0x0639, 0x0645],
    [0x063A, 0x062C], [0x063A, 0x0645], [0x0641, 0x062C], [0x0641, 0x062D], [0x0641, 0x062E],
    [0x0641, 0x0645], [0x0642, 0x062D], [0x0642, 0x0645], [0x0643, 0x062C], [0x0643, 0x062D],
    [0x0643, 0x062E], [0x0643, 0x0644], [0x0643, 0x0645], [0x0644, 0x062C], [0x0644, 0x062D],
    [0x0644, 0x062E], [0x0644, 0x0645], [0x0644, 0x0647], [0x0645, 0x062C], [0x0645, 0x062D],
    [0x0645, 0x062E], [0x0645, 0x0645], [0x0646, 0x062C], [0x0646, 0x062D], [0x0646, 0x062E],
    [0x0646, 0x0645], [0x0646, 0x0647], [0x0647, 0x062C], [0x0647, 0x0645], [0x0647, 0x0670],
    [0x064A, 0x062C], [0x064A, 0x062D], [0x064A, 0x062E], [0x064A, 0x0645], [0x064A, 0x0647],
    [0x0626, 0x0645], [0x0626, 0x0647], [0x0628, 0x0645], [0x0628, 0x0647], [0x062A, 0x0645],
    [0x062A, 0x0647], [0x062B, 0x0645], [0x062B, 0x0647], [0x0633, 0x0645], [0x0633, 0x0647],
    [0x0634, 0x0645], [0x0634, 0x0647], [0x0643, 0x0644], [0x0643, 0x0645], [0x0644, 0x0645],
    [0x0646, 0x0645], [0x0646, 0x0647], [0x064A, 0x0645], [0x064A, 0x0647],
    [0x0640, 0x064E, 0x0651], [0x0640, 0x064F, 0x0651], [0x0640, 0x0650, 0x0651],
    [0x0637, 0x0649], [0x0637, 0x064A], [0x0639, 0x0649], [0x0639, 0x064A], [0x063A, 0x0649],
    [0x063A, 0x064A], [0x0633, 0x0649], [0x0633, 0x064A], [0x0634, 0x0649], [0x0634, 0x064A],
    [0x062D, 0x0649]]),
  (0xFD00, [
    [0x062D, 0x064A], [0x062C, 0x0649], [0x062C, 0x064A], [0x062E, 0x0649], [0x062E, 0x064A],
    [0x0635, 0x0649], [0x0635, 0x064A], [0x0636, 0x0649], [0x0636, 0x064A], [0x0634, 0x062C],
    [0x0634, 0x062D], [0x0634, 0x062E], [0x0634, 0x0645], [0x0634, 0x0631], [0x0633, 0x0631],
    [0x0635, 0x0631], [0x0636, 0x0631], [0x0637, 0x0649], [0x0637, 0x064A], [0x0639, 0x0649],
    [0x0639, 0x064A], [0x063A, 0x0649], [0x063A, 0x064A], [0x0633, 0x0649], [0x0633, 0x064A],
    [0x0634, 0x0649], [0x0634, 0x064A], [0x062D, 0x0649], [0x062D, 0x064A], [0x062C, 0x0649],
    [0x062C, 0x064A], [0x062E, 0x0649], [0x062E, 0x064A], [0x0635, 0x0649], [0x0635, 0x064A],
    [0x0636, 0x0649], [0x0636, 0x064A], [0x0634, 0x062C], [0x0634, 0x062D], [0x0634, 0x062E],
    [0x0634, 0x0645], [0x0634, 0x0631], [0x0633, 0x0631], [0x0635, 0x0631], [0x0636, 0x0631],
    [0x0634, 0x062C], [0x0634, 0x062D], [0x0634, 0x062E], [0x0634, 0x0645], [0x0633, 0x0647],
    [0x0634, 0x0647], [0x0637, 0x0645], [0x0633, 0x062C], [0x0633, 0x062D], [0x0633, 0x062E],
    [0x0634, 0x062C], [0x0634, 0x062D], [0x0634, 0x062E], [0x0637, 0x0645], [0x0638, 0x0645],
    [0x0627, 0x064B], [0x0627, 0x064B]]),
  (0xFD50, [
    [0x062A, 0x062C, 0x0645], [0x062A, 0x062D, 0x062C], [0x062A, 0x062D, 0x062C],
    [0x062A, 0x062D, 0x0645], [0x062A, 0x062E, 0x0645], [0x062A, 0x0645, 0x062C],
    [0x062A, 0x0645, 0x062D], [0x062A, 0x0645, 0x062E], [0x062C, 0x0645, 0x062D],
    [0x062C, 0x0645, 0x062D], [0x062D, 0x0645, 0x064A], [0x062D, 0x0645, 0x0649],
    [0x0633, 0x062D, 0x062C], [0x0633, 0x062C, 0x062D], [0x0633, 0x062C, 0x0649],
    [0x0633, 0x0645, 0x062D], [0x0633, 0x0645, 0x062D], [0x0633, 0x0645, 0x062C],
    [0x0633, 0x0645, 0x0645], [0x0633, 0x0645, 0x0645], [0x0635, 0x062D, 0x062D],
    [0x0635, 0x062D, 0x062D], [0x0635, 0x0645, 0x0645], [0x0634, 0x062D, 0x0645],
    [0x0634, 0x062D, 0x0645], [0x0634, 0x062C, 0x064A], [0x0634, 0x0645, 0x062E],
    [0x0634, 0x0645, 0x062E], [0x0634, 0x0645, 0x0645], [0x0634, 0x0645, 0x0645],
    [0x0636, 0x062D, 0x0649], [0x0636, 0x062E, 0x0645], [0x0636, 0x062E, 0x0645],
    [0x0637, 0x0645, 0x062D], [0x0637, 0x0645, 0x062D], [0x0637, 0x0645, 0x0645],
    [0x0637, 0x0645, 0x064A], [0x0639, 0x062C, 0x0645], [0x0639, 0x0645, 0x0645],
    [0x0639, 0x0645, 0x0645], [0x0639, 0x0645, 0x0649], [0x063A, 0x0645, 0x0645],
    [0x063A, 0x0645, 0x064A], [0x063A, 0x0645, 0x0649], [0x0641, 0x062E, 0x0645],
    [0x0641, 0x062E, 0x0645], [0x0642, 0x0645, 0x062D], [0x0642, 0x0645, 0x0645],
    [0x0644, 0x062D, 0x0645], [0x0644, 0x062D, 0x064A], [0x0644, 0x062D, 0x0649],
    [0x0644, 0x062C, 0x062C], [0x0644, 0x062C, 0x062C], [0x0644, 0x062E, 0x0645],
    [0x0644, 0x062E, 0x0645], [0x0644, 0x0645, 0x062D], [0x0644, 0x0645, 0x062D],
    [0x0645, 0x062D, 0x062C], [0x0645, 0x062D, 0x0645], [0x0645, 0x062D, 0x064A],
    [0x0645, 0x062C, 0x062D], [0x0645, 0x062C, 0x0645], [0x0645, 0x062E, 0x062C],
    [0x0645, 0x062E, 0x0645], [], [], [0x0645, 0x062C, 0x062E], [0x0647, 0x0645, 0x062C],
    [0x0647, 0x0645, 0x0645], [0x0646, 0x062D, 0x0645], [0x0646, 0x062D, 0x0649],
    [0x0646, 0x062C, 0x0645], [0x0646, 0x062C, 0x0645], [0x0646, 0x062C, 0x0649],
    [0x0646, 0x0645, 0x064A], [0x0646, 0x0645, 0x0649], [0x064A, 0x0645, 0x0645],
    [0x064A, 0x0645, 0x0645], [0x0628, 0x062E, 0x064A], [0x062A, 0x062C, 0x064A],
    [0x062A, 0x062C, 0x0649], [0x062A, 0x062E, 0x064A], [0x062A, 0x062E, 0x0649],
    [0x062A, 0x0645, 0x064A], [0x062A, 0x0645, 0x0649], [0x062C, 0x0645, 0x064A],
    [0x062C, 0x062D, 0x0649], [0x062C, 0x0645, 0x0649], [0x0633, 0x062E, 0x0649],
    [0x0635, 0x062D, 0x064A], [0x0634, 0x062D, 0x064A], [0x0636, 0x062D, 0x064A],
    [0x0644, 0x062C, 0x064A], [0x0644, 0x0645, 0x064A], [0x064A, 0x062D, 0x064A],
    [0x064A, 0x062C, 0x064A], [0x064A, 0x0645, 0x064A], [0x0645, 0x0645, 0x064A],
    [0x0642, 0x0645, 0x064A], [0x0646, 0x062D, 0x064A], [0x0642, 0x0645, 0x062D],
    [0x0644, 0x062D, 0x0645], [0x0639, 0x0645, 0x064A], [0x0643, 0x0645, 0x064A],
    [0x0646, 0x062C, 0x062D], [0x0645, 0x062E, 0x064A], [0x0644, 0x062C, 0x0645],
    [0x0643, 0x0645, 0x0645], [0x0644, 0x062C, 0x0645], [0x0646, 0x062C, 0x062D],
    [0x062C, 0x062D, 0x064A], [0x062D, 0x062C, 0x064A], [0x0645, 0x062C, 0x064A],
    [0x0641, 0x0645, 0x064A], [0x0628, 0x062D, 0x064A], [0x0643, 0x0645, 0x0645],
    [0x0639, 0x062C, 0x0645], [0x0635, 0x0645, 0x0645], [0x0633, 0x062E, 0x064A],
    [0x0646, 0x062C, 0x064A]]),
  (0xFDF0, [
    [0x0635, 0x0644, 0x06D2], [0x0642, 0x0644, 0x06D2], [0x0627, 0x0644, 0x0644, 0x0647],
    [0x0627, 0x0643, 0x0628, 0x0631], [0x0645, 0x062D, 0x0645, 0x062F],
    [0x0635, 0x0644, 0x0639, 0x0645], [0x0631, 0x0633, 0x0648, 0x0644],
    [0x0639, 0x0644, 0x064A, 0x0647], [0x0648, 0x0633, 0x0644, 0x0645], [0x0635, 0x0644, 0x0649],
    [
      0x0635, 0x0644, 0x0649, 0x0020, 0x0627, 0x0644, 0x0644, 0x0647, 0x0020, 0x0639, 0x0644,
      0x064A, 0x0647, 0x0020, 0x0648, 0x0633, 0x0644, 0x0645],
    [0x062C, 0x0644, 0x0020, 0x062C, 0x0644, 0x0627, 0x0644, 0x0647],
    [0x0631, 0x06CC, 0x0627, 0x0644]]),
  (0xFE49, [[0x0020, 0x0305], [0x0020, 0x0305], [0x0020, 0x0305], [0x0020, 0x0305]]),
  (0xFE70, [
    [0x0020, 0x064B], [0x0640, 0x064B], [0x0020, 0x064C], [], [0x0020, 0x064D], [],
    [0x0020, 0x064E], [0x0640, 0x064E], [0x0020, 0x064F], [0x0640, 0x064F], [0x0020, 0x0650],
    [0x0640, 0x0650], [0x0020, 0x0651], [0x0640, 0x0651], [0x0020, 0x0652], [0x0640, 0x0652]]),
  (0xFEF5, [
    [0x0644, 0x0622], [0x0644, 0x0622], [0x0644, 0x0623], [0x0644, 0x0623], [0x0644, 0x0625],
    [0x0644, 0x0625], [0x0644, 0x0627], [0x0644, 0x0627]]),
  (0xFFE3, [[0x0020, 0x0304]]),
  (0x1D15E, [
    [0x1D157, 0x1D165], [0x1D158, 0x1D165], [0x1D158, 0x1D165, 0x1D16E],
    [0x1D158, 0x1D165, 0x1D16F], [0x1D158, 0x1D165, 0x1D170], [0x1D158, 0x1D165, 0x1D171],
    [0x1D158, 0x1D165, 0x1D172]]),
  (0x1D1BB, [
    [0x1D1B9, 0x1D165], [0x1D1BA, 0x1D165], [0x1D1B9, 0x1D165, 0x1D16E],
    [0x1D1BA, 0x1D165, 0x1D16E], [0x1D1B9, 0x1D165, 0x1D16F], [0x1D1BA, 0x1D165, 0x1D16F]]),
  (0x1F101, [
    [0x0030, 0x002C], [0x0031, 0x002C], [0x0032, 0x002C], [0x0033, 0x002C], [0x0034, 0x002C],
    [0x0035, 0x002C], [0x0036, 0x002C], [0x0037, 0x002C], [0x0038, 0x002C], [0x0039, 0x002C]]),
  (0x1F110, [
    [0x0028, 0x0061, 0x0029], [0x0028, 0x0062, 0x0029], [0x0028, 0x0063, 0x0029],
    [0x0028, 0x0064, 0x0029], [0x0028, 0x0065, 0x0029], [0x0028, 0x0066, 0x0029],
    [0x0028, 0x0067, 0x0029], [0x0028, 0x0068, 0x0029], [0x0028, 0x0069, 0x0029],
    [0x0028, 0x006A, 0x0029], [0x0028, 0x006B, 0x0029], [0x0028, 0x006C, 0x0029],
    [0x0028, 0x006D, 0x0029], [0x0028, 0x006E, 0x0029], [0x0028, 0x006F, 0x0029],
    [0x0028, 0x0070, 0x0029], [0x0028, 0x0071, 0x0029], [0x0028, 0x0072, 0x0029],
    [0x0028, 0x0073, 0x0029], [0x0028, 0x0074, 0x0029], [0x0028, 0x0075, 0x0029],
    [0x0028, 0x0076, 0x0029], [0x0028, 0x0077, 0x0029], [0x0028, 0x0078, 0x0029],
    [0x0028, 0x0079, 0x0029], [0x0028, 0x007A, 0x0029], [0x3014, 0x0073, 0x3015], [], [],
    [0x0063, 0x0064], [0x0077, 0x007A]]),
  (0x1F14A, [
    [0x0068, 0x0076], [0x006D, 0x0076], [0x0073, 0x0064], [0x0073, 0x0073],
    [0x0070, 0x0070, 0x0076], [0x0077, 0x0063]]),
  (0x1F16A, [[0x006D, 0x0063], [0x006D, 0x0064], [0x006D, 0x0072]]),
  (0x1F190, [[0x0064, 0x006A]]),
  (0x1F200, [[0x307B, 0x304B], [0x30B3, 0x30B3]]),
  (0x1F240, [
    [0x3014, 0x672C, 0x3015], [0x3014, 0x4E09, 0x3015], [0x3014, 0x4E8C, 0x3015],
    [0x3014, 0x5B89, 0x3015], [0x3014, 0x70B9, 0x3015], [0x3014, 0x6253, 0x3015],
    [0x3014, 0x76D7, 0x3015], [0x3014, 0x52DD, 0x3015], [0x3014, 0x6557, 0x3015]])]

/-- The image that a stretch gives to a code point. -/
def stretchSequence? (c : Nat) (stretch : Nat × List (List Nat)) : Option (List Nat) :=
  if stretch.1 ≤ c then (stretch.2[c - stretch.1]?).filter (!·.isEmpty) else none

/-- The code points that `c` maps to, if they are several. -/
def sequenceImage? (c : Nat) : Option (List Nat) := sequenceImages.findSome? (stretchSequence? c)

end HostRouting.Domain
