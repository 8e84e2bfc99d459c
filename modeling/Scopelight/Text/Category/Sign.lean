import Scopelight.Text.Run

/-!
# Symbols

The code points of the four symbol categories.
-/

namespace Scopelight.Text

set_option maxRecDepth 8000

/-- Category `Sm`. -/
def mathSymbol : List Run := [
  ⟨0x2b, 0x2b, 1⟩, ⟨0x3c, 0x3e, 1⟩, ⟨0x7c, 0x7c, 1⟩, ⟨0x7e, 0x7e, 1⟩, ⟨0xac, 0xac, 1⟩,
  ⟨0xb1, 0xb1, 1⟩, ⟨0xd7, 0xd7, 1⟩, ⟨0xf7, 0xf7, 1⟩, ⟨0x3f6, 0x3f6, 1⟩, ⟨0x606, 0x608, 1⟩,
  ⟨0x2044, 0x2044, 1⟩, ⟨0x2052, 0x2052, 1⟩, ⟨0x207a, 0x207c, 1⟩, ⟨0x208a, 0x208c, 1⟩,
  ⟨0x2118, 0x2118, 1⟩, ⟨0x2140, 0x2144, 1⟩, ⟨0x214b, 0x214b, 1⟩, ⟨0x2190, 0x2194, 1⟩,
  ⟨0x219a, 0x219b, 1⟩, ⟨0x21a0, 0x21a0, 1⟩, ⟨0x21a3, 0x21a3, 1⟩, ⟨0x21a6, 0x21a6, 1⟩,
  ⟨0x21ae, 0x21ae, 1⟩, ⟨0x21ce, 0x21cf, 1⟩, ⟨0x21d2, 0x21d2, 1⟩, ⟨0x21d4, 0x21d4, 1⟩,
  ⟨0x21f4, 0x22ff, 1⟩, ⟨0x2320, 0x2321, 1⟩, ⟨0x237c, 0x237c, 1⟩, ⟨0x239b, 0x23b3, 1⟩,
  ⟨0x23dc, 0x23e1, 1⟩, ⟨0x25b7, 0x25b7, 1⟩, ⟨0x25c1, 0x25c1, 1⟩, ⟨0x25f8, 0x25ff, 1⟩,
  ⟨0x266f, 0x266f, 1⟩, ⟨0x27c0, 0x27c4, 1⟩, ⟨0x27c7, 0x27e5, 1⟩, ⟨0x27f0, 0x27ff, 1⟩,
  ⟨0x2900, 0x2982, 1⟩, ⟨0x2999, 0x29d7, 1⟩, ⟨0x29dc, 0x29fb, 1⟩, ⟨0x29fe, 0x2aff, 1⟩,
  ⟨0x2b30, 0x2b44, 1⟩, ⟨0x2b47, 0x2b4c, 1⟩, ⟨0xfb29, 0xfb29, 1⟩, ⟨0xfe62, 0xfe62, 1⟩,
  ⟨0xfe64, 0xfe66, 1⟩, ⟨0xff0b, 0xff0b, 1⟩, ⟨0xff1c, 0xff1e, 1⟩, ⟨0xff5c, 0xff5c, 1⟩,
  ⟨0xff5e, 0xff5e, 1⟩, ⟨0xffe2, 0xffe2, 1⟩, ⟨0xffe9, 0xffec, 1⟩, ⟨0x10d8e, 0x10d8f, 1⟩,
  ⟨0x1d6c1, 0x1d6c1, 1⟩, ⟨0x1d6db, 0x1d6db, 1⟩, ⟨0x1d6fb, 0x1d6fb, 1⟩, ⟨0x1d715, 0x1d715, 1⟩,
  ⟨0x1d735, 0x1d735, 1⟩, ⟨0x1d74f, 0x1d74f, 1⟩, ⟨0x1d76f, 0x1d76f, 1⟩, ⟨0x1d789, 0x1d789, 1⟩,
  ⟨0x1d7a9, 0x1d7a9, 1⟩, ⟨0x1d7c3, 0x1d7c3, 1⟩, ⟨0x1eef0, 0x1eef1, 1⟩]

/-- Category `Sc`. -/
def currencySymbol : List Run := [
  ⟨0x24, 0x24, 1⟩, ⟨0xa2, 0xa5, 1⟩, ⟨0x58f, 0x58f, 1⟩, ⟨0x60b, 0x60b, 1⟩, ⟨0x7fe, 0x7ff, 1⟩,
  ⟨0x9f2, 0x9f3, 1⟩, ⟨0x9fb, 0x9fb, 1⟩, ⟨0xaf1, 0xaf1, 1⟩, ⟨0xbf9, 0xbf9, 1⟩, ⟨0xe3f, 0xe3f, 1⟩,
  ⟨0x17db, 0x17db, 1⟩, ⟨0x20a0, 0x20c0, 1⟩, ⟨0xa838, 0xa838, 1⟩, ⟨0xfdfc, 0xfdfc, 1⟩,
  ⟨0xfe69, 0xfe69, 1⟩, ⟨0xff04, 0xff04, 1⟩, ⟨0xffe0, 0xffe1, 1⟩, ⟨0xffe5, 0xffe6, 1⟩,
  ⟨0x11fdd, 0x11fe0, 1⟩, ⟨0x1e2ff, 0x1e2ff, 1⟩, ⟨0x1ecb0, 0x1ecb0, 1⟩]

/-- Category `Sk`. -/
def modifierSymbol : List Run := [
  ⟨0x5e, 0x5e, 1⟩, ⟨0x60, 0x60, 1⟩, ⟨0xa8, 0xa8, 1⟩, ⟨0xaf, 0xaf, 1⟩, ⟨0xb4, 0xb4, 1⟩,
  ⟨0xb8, 0xb8, 1⟩, ⟨0x2c2, 0x2c5, 1⟩, ⟨0x2d2, 0x2df, 1⟩, ⟨0x2e5, 0x2eb, 1⟩, ⟨0x2ed, 0x2ed, 1⟩,
  ⟨0x2ef, 0x2ff, 1⟩, ⟨0x375, 0x375, 1⟩, ⟨0x384, 0x385, 1⟩, ⟨0x888, 0x888, 1⟩, ⟨0x1fbd, 0x1fbd, 1⟩,
  ⟨0x1fbf, 0x1fc1, 1⟩, ⟨0x1fcd, 0x1fcf, 1⟩, ⟨0x1fdd, 0x1fdf, 1⟩, ⟨0x1fed, 0x1fef, 1⟩,
  ⟨0x1ffd, 0x1ffe, 1⟩, ⟨0x309b, 0x309c, 1⟩, ⟨0xa700, 0xa716, 1⟩, ⟨0xa720, 0xa721, 1⟩,
  ⟨0xa789, 0xa78a, 1⟩, ⟨0xab5b, 0xab5b, 1⟩, ⟨0xab6a, 0xab6b, 1⟩, ⟨0xfbb2, 0xfbc2, 1⟩,
  ⟨0xff3e, 0xff3e, 1⟩, ⟨0xff40, 0xff40, 1⟩, ⟨0xffe3, 0xffe3, 1⟩, ⟨0x1f3fb, 0x1f3ff, 1⟩]

/-- Category `So`. -/
def otherSymbol : List Run := [
  ⟨0xa6, 0xa6, 1⟩, ⟨0xa9, 0xa9, 1⟩, ⟨0xae, 0xae, 1⟩, ⟨0xb0, 0xb0, 1⟩, ⟨0x482, 0x482, 1⟩,
  ⟨0x58d, 0x58e, 1⟩, ⟨0x60e, 0x60f, 1⟩, ⟨0x6de, 0x6de, 1⟩, ⟨0x6e9, 0x6e9, 1⟩, ⟨0x6fd, 0x6fe, 1⟩,
  ⟨0x7f6, 0x7f6, 1⟩, ⟨0x9fa, 0x9fa, 1⟩, ⟨0xb70, 0xb70, 1⟩, ⟨0xbf3, 0xbf8, 1⟩, ⟨0xbfa, 0xbfa, 1⟩,
  ⟨0xc7f, 0xc7f, 1⟩, ⟨0xd4f, 0xd4f, 1⟩, ⟨0xd79, 0xd79, 1⟩, ⟨0xf01, 0xf03, 1⟩, ⟨0xf13, 0xf13, 1⟩,
  ⟨0xf15, 0xf17, 1⟩, ⟨0xf1a, 0xf1f, 1⟩, ⟨0xf34, 0xf38, 2⟩, ⟨0xfbe, 0xfc5, 1⟩, ⟨0xfc7, 0xfcc, 1⟩,
  ⟨0xfce, 0xfcf, 1⟩, ⟨0xfd5, 0xfd8, 1⟩, ⟨0x109e, 0x109f, 1⟩, ⟨0x1390, 0x1399, 1⟩,
  ⟨0x166d, 0x166d, 1⟩, ⟨0x1940, 0x1940, 1⟩, ⟨0x19de, 0x19ff, 1⟩, ⟨0x1b61, 0x1b6a, 1⟩,
  ⟨0x1b74, 0x1b7c, 1⟩, ⟨0x2100, 0x2101, 1⟩, ⟨0x2103, 0x2106, 1⟩, ⟨0x2108, 0x2109, 1⟩,
  ⟨0x2114, 0x2114, 1⟩, ⟨0x2116, 0x2117, 1⟩, ⟨0x211e, 0x2123, 1⟩, ⟨0x2125, 0x2129, 2⟩,
  ⟨0x212e, 0x212e, 1⟩, ⟨0x213a, 0x213b, 1⟩, ⟨0x214a, 0x214a, 1⟩, ⟨0x214c, 0x214d, 1⟩,
  ⟨0x214f, 0x214f, 1⟩, ⟨0x218a, 0x218b, 1⟩, ⟨0x2195, 0x2199, 1⟩, ⟨0x219c, 0x219f, 1⟩,
  ⟨0x21a1, 0x21a2, 1⟩, ⟨0x21a4, 0x21a5, 1⟩, ⟨0x21a7, 0x21ad, 1⟩, ⟨0x21af, 0x21cd, 1⟩,
  ⟨0x21d0, 0x21d1, 1⟩, ⟨0x21d3, 0x21d3, 1⟩, ⟨0x21d5, 0x21f3, 1⟩, ⟨0x2300, 0x2307, 1⟩,
  ⟨0x230c, 0x231f, 1⟩, ⟨0x2322, 0x2328, 1⟩, ⟨0x232b, 0x237b, 1⟩, ⟨0x237d, 0x239a, 1⟩,
  ⟨0x23b4, 0x23db, 1⟩, ⟨0x23e2, 0x2429, 1⟩, ⟨0x2440, 0x244a, 1⟩, ⟨0x249c, 0x24e9, 1⟩,
  ⟨0x2500, 0x25b6, 1⟩, ⟨0x25b8, 0x25c0, 1⟩, ⟨0x25c2, 0x25f7, 1⟩, ⟨0x2600, 0x266e, 1⟩,
  ⟨0x2670, 0x2767, 1⟩, ⟨0x2794, 0x27bf, 1⟩, ⟨0x2800, 0x28ff, 1⟩, ⟨0x2b00, 0x2b2f, 1⟩,
  ⟨0x2b45, 0x2b46, 1⟩, ⟨0x2b4d, 0x2b73, 1⟩, ⟨0x2b76, 0x2b95, 1⟩, ⟨0x2b97, 0x2bff, 1⟩,
  ⟨0x2ce5, 0x2cea, 1⟩, ⟨0x2e50, 0x2e51, 1⟩, ⟨0x2e80, 0x2e99, 1⟩, ⟨0x2e9b, 0x2ef3, 1⟩,
  ⟨0x2f00, 0x2fd5, 1⟩, ⟨0x2ff0, 0x2fff, 1⟩, ⟨0x3004, 0x3004, 1⟩, ⟨0x3012, 0x3013, 1⟩,
  ⟨0x3020, 0x3020, 1⟩, ⟨0x3036, 0x3037, 1⟩, ⟨0x303e, 0x303f, 1⟩, ⟨0x3190, 0x3191, 1⟩,
  ⟨0x3196, 0x319f, 1⟩, ⟨0x31c0, 0x31e5, 1⟩, ⟨0x31ef, 0x31ef, 1⟩, ⟨0x3200, 0x321e, 1⟩,
  ⟨0x322a, 0x3247, 1⟩, ⟨0x3250, 0x3250, 1⟩, ⟨0x3260, 0x327f, 1⟩, ⟨0x328a, 0x32b0, 1⟩,
  ⟨0x32c0, 0x33ff, 1⟩, ⟨0x4dc0, 0x4dff, 1⟩, ⟨0xa490, 0xa4c6, 1⟩, ⟨0xa828, 0xa82b, 1⟩,
  ⟨0xa836, 0xa837, 1⟩, ⟨0xa839, 0xa839, 1⟩, ⟨0xaa77, 0xaa79, 1⟩, ⟨0xfd40, 0xfd4f, 1⟩,
  ⟨0xfdcf, 0xfdcf, 1⟩, ⟨0xfdfd, 0xfdff, 1⟩, ⟨0xffe4, 0xffe4, 1⟩, ⟨0xffe8, 0xffe8, 1⟩,
  ⟨0xffed, 0xffee, 1⟩, ⟨0xfffc, 0xfffd, 1⟩, ⟨0x10137, 0x1013f, 1⟩, ⟨0x10179, 0x10189, 1⟩,
  ⟨0x1018c, 0x1018e, 1⟩, ⟨0x10190, 0x1019c, 1⟩, ⟨0x101a0, 0x101a0, 1⟩, ⟨0x101d0, 0x101fc, 1⟩,
  ⟨0x10877, 0x10878, 1⟩, ⟨0x10ac8, 0x10ac8, 1⟩, ⟨0x1173f, 0x1173f, 1⟩, ⟨0x11fd5, 0x11fdc, 1⟩,
  ⟨0x11fe1, 0x11ff1, 1⟩, ⟨0x16b3c, 0x16b3f, 1⟩, ⟨0x16b45, 0x16b45, 1⟩, ⟨0x1bc9c, 0x1bc9c, 1⟩,
  ⟨0x1cc00, 0x1ccef, 1⟩, ⟨0x1cd00, 0x1ceb3, 1⟩, ⟨0x1cf50, 0x1cfc3, 1⟩, ⟨0x1d000, 0x1d0f5, 1⟩,
  ⟨0x1d100, 0x1d126, 1⟩, ⟨0x1d129, 0x1d164, 1⟩, ⟨0x1d16a, 0x1d16c, 1⟩, ⟨0x1d183, 0x1d184, 1⟩,
  ⟨0x1d18c, 0x1d1a9, 1⟩, ⟨0x1d1ae, 0x1d1ea, 1⟩, ⟨0x1d200, 0x1d241, 1⟩, ⟨0x1d245, 0x1d245, 1⟩,
  ⟨0x1d300, 0x1d356, 1⟩, ⟨0x1d800, 0x1d9ff, 1⟩, ⟨0x1da37, 0x1da3a, 1⟩, ⟨0x1da6d, 0x1da74, 1⟩,
  ⟨0x1da76, 0x1da83, 1⟩, ⟨0x1da85, 0x1da86, 1⟩, ⟨0x1e14f, 0x1e14f, 1⟩, ⟨0x1ecac, 0x1ecac, 1⟩,
  ⟨0x1ed2e, 0x1ed2e, 1⟩, ⟨0x1f000, 0x1f02b, 1⟩, ⟨0x1f030, 0x1f093, 1⟩, ⟨0x1f0a0, 0x1f0ae, 1⟩,
  ⟨0x1f0b1, 0x1f0bf, 1⟩, ⟨0x1f0c1, 0x1f0cf, 1⟩, ⟨0x1f0d1, 0x1f0f5, 1⟩, ⟨0x1f10d, 0x1f1ad, 1⟩,
  ⟨0x1f1e6, 0x1f202, 1⟩, ⟨0x1f210, 0x1f23b, 1⟩, ⟨0x1f240, 0x1f248, 1⟩, ⟨0x1f250, 0x1f251, 1⟩,
  ⟨0x1f260, 0x1f265, 1⟩, ⟨0x1f300, 0x1f3fa, 1⟩, ⟨0x1f400, 0x1f6d7, 1⟩, ⟨0x1f6dc, 0x1f6ec, 1⟩,
  ⟨0x1f6f0, 0x1f6fc, 1⟩, ⟨0x1f700, 0x1f776, 1⟩, ⟨0x1f77b, 0x1f7d9, 1⟩, ⟨0x1f7e0, 0x1f7eb, 1⟩,
  ⟨0x1f7f0, 0x1f7f0, 1⟩, ⟨0x1f800, 0x1f80b, 1⟩, ⟨0x1f810, 0x1f847, 1⟩, ⟨0x1f850, 0x1f859, 1⟩,
  ⟨0x1f860, 0x1f887, 1⟩, ⟨0x1f890, 0x1f8ad, 1⟩, ⟨0x1f8b0, 0x1f8bb, 1⟩, ⟨0x1f8c0, 0x1f8c1, 1⟩,
  ⟨0x1f900, 0x1fa53, 1⟩, ⟨0x1fa60, 0x1fa6d, 1⟩, ⟨0x1fa70, 0x1fa7c, 1⟩, ⟨0x1fa80, 0x1fa89, 1⟩,
  ⟨0x1fa8f, 0x1fac6, 1⟩, ⟨0x1face, 0x1fadc, 1⟩, ⟨0x1fadf, 0x1fae9, 1⟩, ⟨0x1faf0, 0x1faf8, 1⟩,
  ⟨0x1fb00, 0x1fb92, 1⟩, ⟨0x1fb94, 0x1fbef, 1⟩]

end Scopelight.Text
