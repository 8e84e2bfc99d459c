import Scopelight.Text.Run

/-!
# Punctuation

The code points of the seven punctuation categories.
-/

namespace Scopelight.Text

set_option maxRecDepth 8000

/-- Category `Pc`. -/
def connectorPunctuation : List Run := [
  ⟨0x5f, 0x5f, 1⟩, ⟨0x203f, 0x2040, 1⟩, ⟨0x2054, 0x2054, 1⟩, ⟨0xfe33, 0xfe34, 1⟩,
  ⟨0xfe4d, 0xfe4f, 1⟩, ⟨0xff3f, 0xff3f, 1⟩]

/-- Category `Pd`. -/
def dashPunctuation : List Run := [
  ⟨0x2d, 0x2d, 1⟩, ⟨0x58a, 0x58a, 1⟩, ⟨0x5be, 0x5be, 1⟩, ⟨0x1400, 0x1400, 1⟩, ⟨0x1806, 0x1806, 1⟩,
  ⟨0x2010, 0x2015, 1⟩, ⟨0x2e17, 0x2e17, 1⟩, ⟨0x2e1a, 0x2e1a, 1⟩, ⟨0x2e3a, 0x2e3b, 1⟩,
  ⟨0x2e40, 0x2e40, 1⟩, ⟨0x2e5d, 0x2e5d, 1⟩, ⟨0x301c, 0x301c, 1⟩, ⟨0x3030, 0x3030, 1⟩,
  ⟨0x30a0, 0x30a0, 1⟩, ⟨0xfe31, 0xfe32, 1⟩, ⟨0xfe58, 0xfe58, 1⟩, ⟨0xfe63, 0xfe63, 1⟩,
  ⟨0xff0d, 0xff0d, 1⟩, ⟨0x10d6e, 0x10d6e, 1⟩, ⟨0x10ead, 0x10ead, 1⟩]

/-- Category `Ps`. -/
def openPunctuation : List Run := [
  ⟨0x28, 0x28, 1⟩, ⟨0x5b, 0x5b, 1⟩, ⟨0x7b, 0x7b, 1⟩, ⟨0xf3a, 0xf3a, 1⟩, ⟨0xf3c, 0xf3c, 1⟩,
  ⟨0x169b, 0x169b, 1⟩, ⟨0x201a, 0x201a, 1⟩, ⟨0x201e, 0x201e, 1⟩, ⟨0x2045, 0x2045, 1⟩,
  ⟨0x207d, 0x207d, 1⟩, ⟨0x208d, 0x208d, 1⟩, ⟨0x2308, 0x2308, 1⟩, ⟨0x230a, 0x230a, 1⟩,
  ⟨0x2329, 0x2329, 1⟩, ⟨0x2768, 0x2774, 2⟩, ⟨0x27c5, 0x27c5, 1⟩, ⟨0x27e6, 0x27ee, 2⟩,
  ⟨0x2983, 0x2997, 2⟩, ⟨0x29d8, 0x29d8, 1⟩, ⟨0x29da, 0x29da, 1⟩, ⟨0x29fc, 0x29fc, 1⟩,
  ⟨0x2e22, 0x2e28, 2⟩, ⟨0x2e42, 0x2e42, 1⟩, ⟨0x2e55, 0x2e5b, 2⟩, ⟨0x3008, 0x3010, 2⟩,
  ⟨0x3014, 0x301a, 2⟩, ⟨0x301d, 0x301d, 1⟩, ⟨0xfd3f, 0xfd3f, 1⟩, ⟨0xfe17, 0xfe17, 1⟩,
  ⟨0xfe35, 0xfe43, 2⟩, ⟨0xfe47, 0xfe47, 1⟩, ⟨0xfe59, 0xfe5d, 2⟩, ⟨0xff08, 0xff08, 1⟩,
  ⟨0xff3b, 0xff3b, 1⟩, ⟨0xff5b, 0xff5b, 1⟩, ⟨0xff5f, 0xff5f, 1⟩, ⟨0xff62, 0xff62, 1⟩]

/-- Category `Pe`. -/
def closePunctuation : List Run := [
  ⟨0x29, 0x29, 1⟩, ⟨0x5d, 0x5d, 1⟩, ⟨0x7d, 0x7d, 1⟩, ⟨0xf3b, 0xf3b, 1⟩, ⟨0xf3d, 0xf3d, 1⟩,
  ⟨0x169c, 0x169c, 1⟩, ⟨0x2046, 0x2046, 1⟩, ⟨0x207e, 0x207e, 1⟩, ⟨0x208e, 0x208e, 1⟩,
  ⟨0x2309, 0x2309, 1⟩, ⟨0x230b, 0x230b, 1⟩, ⟨0x232a, 0x232a, 1⟩, ⟨0x2769, 0x2775, 2⟩,
  ⟨0x27c6, 0x27c6, 1⟩, ⟨0x27e7, 0x27ef, 2⟩, ⟨0x2984, 0x2998, 2⟩, ⟨0x29d9, 0x29d9, 1⟩,
  ⟨0x29db, 0x29db, 1⟩, ⟨0x29fd, 0x29fd, 1⟩, ⟨0x2e23, 0x2e29, 2⟩, ⟨0x2e56, 0x2e5c, 2⟩,
  ⟨0x3009, 0x3011, 2⟩, ⟨0x3015, 0x301b, 2⟩, ⟨0x301e, 0x301f, 1⟩, ⟨0xfd3e, 0xfd3e, 1⟩,
  ⟨0xfe18, 0xfe18, 1⟩, ⟨0xfe36, 0xfe44, 2⟩, ⟨0xfe48, 0xfe48, 1⟩, ⟨0xfe5a, 0xfe5e, 2⟩,
  ⟨0xff09, 0xff09, 1⟩, ⟨0xff3d, 0xff3d, 1⟩, ⟨0xff5d, 0xff5d, 1⟩, ⟨0xff60, 0xff60, 1⟩,
  ⟨0xff63, 0xff63, 1⟩]

/-- Category `Pi`. -/
def initialQuote : List Run := [
  ⟨0xab, 0xab, 1⟩, ⟨0x2018, 0x2018, 1⟩, ⟨0x201b, 0x201c, 1⟩, ⟨0x201f, 0x201f, 1⟩,
  ⟨0x2039, 0x2039, 1⟩, ⟨0x2e02, 0x2e02, 1⟩, ⟨0x2e04, 0x2e04, 1⟩, ⟨0x2e09, 0x2e09, 1⟩,
  ⟨0x2e0c, 0x2e0c, 1⟩, ⟨0x2e1c, 0x2e1c, 1⟩, ⟨0x2e20, 0x2e20, 1⟩]

/-- Category `Pf`. -/
def finalQuote : List Run := [
  ⟨0xbb, 0xbb, 1⟩, ⟨0x2019, 0x2019, 1⟩, ⟨0x201d, 0x201d, 1⟩, ⟨0x203a, 0x203a, 1⟩,
  ⟨0x2e03, 0x2e03, 1⟩, ⟨0x2e05, 0x2e05, 1⟩, ⟨0x2e0a, 0x2e0a, 1⟩, ⟨0x2e0d, 0x2e0d, 1⟩,
  ⟨0x2e1d, 0x2e1d, 1⟩, ⟨0x2e21, 0x2e21, 1⟩]

/-- Category `Po`. -/
def otherPunctuation : List Run := [
  ⟨0x21, 0x23, 1⟩, ⟨0x25, 0x27, 1⟩, ⟨0x2a, 0x2a, 1⟩, ⟨0x2c, 0x2c, 1⟩, ⟨0x2e, 0x2f, 1⟩,
  ⟨0x3a, 0x3b, 1⟩, ⟨0x3f, 0x40, 1⟩, ⟨0x5c, 0x5c, 1⟩, ⟨0xa1, 0xa1, 1⟩, ⟨0xa7, 0xa7, 1⟩,
  ⟨0xb6, 0xb7, 1⟩, ⟨0xbf, 0xbf, 1⟩, ⟨0x37e, 0x37e, 1⟩, ⟨0x387, 0x387, 1⟩, ⟨0x55a, 0x55f, 1⟩,
  ⟨0x589, 0x589, 1⟩, ⟨0x5c0, 0x5c0, 1⟩, ⟨0x5c3, 0x5c3, 1⟩, ⟨0x5c6, 0x5c6, 1⟩, ⟨0x5f3, 0x5f4, 1⟩,
  ⟨0x609, 0x60a, 1⟩, ⟨0x60c, 0x60d, 1⟩, ⟨0x61b, 0x61b, 1⟩, ⟨0x61d, 0x61f, 1⟩, ⟨0x66a, 0x66d, 1⟩,
  ⟨0x6d4, 0x6d4, 1⟩, ⟨0x700, 0x70d, 1⟩, ⟨0x7f7, 0x7f9, 1⟩, ⟨0x830, 0x83e, 1⟩, ⟨0x85e, 0x85e, 1⟩,
  ⟨0x964, 0x965, 1⟩, ⟨0x970, 0x970, 1⟩, ⟨0x9fd, 0x9fd, 1⟩, ⟨0xa76, 0xa76, 1⟩, ⟨0xaf0, 0xaf0, 1⟩,
  ⟨0xc77, 0xc77, 1⟩, ⟨0xc84, 0xc84, 1⟩, ⟨0xdf4, 0xdf4, 1⟩, ⟨0xe4f, 0xe4f, 1⟩, ⟨0xe5a, 0xe5b, 1⟩,
  ⟨0xf04, 0xf12, 1⟩, ⟨0xf14, 0xf14, 1⟩, ⟨0xf85, 0xf85, 1⟩, ⟨0xfd0, 0xfd4, 1⟩, ⟨0xfd9, 0xfda, 1⟩,
  ⟨0x104a, 0x104f, 1⟩, ⟨0x10fb, 0x10fb, 1⟩, ⟨0x1360, 0x1368, 1⟩, ⟨0x166e, 0x166e, 1⟩,
  ⟨0x16eb, 0x16ed, 1⟩, ⟨0x1735, 0x1736, 1⟩, ⟨0x17d4, 0x17d6, 1⟩, ⟨0x17d8, 0x17da, 1⟩,
  ⟨0x1800, 0x1805, 1⟩, ⟨0x1807, 0x180a, 1⟩, ⟨0x1944, 0x1945, 1⟩, ⟨0x1a1e, 0x1a1f, 1⟩,
  ⟨0x1aa0, 0x1aa6, 1⟩, ⟨0x1aa8, 0x1aad, 1⟩, ⟨0x1b4e, 0x1b4f, 1⟩, ⟨0x1b5a, 0x1b60, 1⟩,
  ⟨0x1b7d, 0x1b7f, 1⟩, ⟨0x1bfc, 0x1bff, 1⟩, ⟨0x1c3b, 0x1c3f, 1⟩, ⟨0x1c7e, 0x1c7f, 1⟩,
  ⟨0x1cc0, 0x1cc7, 1⟩, ⟨0x1cd3, 0x1cd3, 1⟩, ⟨0x2016, 0x2017, 1⟩, ⟨0x2020, 0x2027, 1⟩,
  ⟨0x2030, 0x2038, 1⟩, ⟨0x203b, 0x203e, 1⟩, ⟨0x2041, 0x2043, 1⟩, ⟨0x2047, 0x2051, 1⟩,
  ⟨0x2053, 0x2053, 1⟩, ⟨0x2055, 0x205e, 1⟩, ⟨0x2cf9, 0x2cfc, 1⟩, ⟨0x2cfe, 0x2cff, 1⟩,
  ⟨0x2d70, 0x2d70, 1⟩, ⟨0x2e00, 0x2e01, 1⟩, ⟨0x2e06, 0x2e08, 1⟩, ⟨0x2e0b, 0x2e0b, 1⟩,
  ⟨0x2e0e, 0x2e16, 1⟩, ⟨0x2e18, 0x2e19, 1⟩, ⟨0x2e1b, 0x2e1b, 1⟩, ⟨0x2e1e, 0x2e1f, 1⟩,
  ⟨0x2e2a, 0x2e2e, 1⟩, ⟨0x2e30, 0x2e39, 1⟩, ⟨0x2e3c, 0x2e3f, 1⟩, ⟨0x2e41, 0x2e41, 1⟩,
  ⟨0x2e43, 0x2e4f, 1⟩, ⟨0x2e52, 0x2e54, 1⟩, ⟨0x3001, 0x3003, 1⟩, ⟨0x303d, 0x303d, 1⟩,
  ⟨0x30fb, 0x30fb, 1⟩, ⟨0xa4fe, 0xa4ff, 1⟩, ⟨0xa60d, 0xa60f, 1⟩, ⟨0xa673, 0xa673, 1⟩,
  ⟨0xa67e, 0xa67e, 1⟩, ⟨0xa6f2, 0xa6f7, 1⟩, ⟨0xa874, 0xa877, 1⟩, ⟨0xa8ce, 0xa8cf, 1⟩,
  ⟨0xa8f8, 0xa8fa, 1⟩, ⟨0xa8fc, 0xa8fc, 1⟩, ⟨0xa92e, 0xa92f, 1⟩, ⟨0xa95f, 0xa95f, 1⟩,
  ⟨0xa9c1, 0xa9cd, 1⟩, ⟨0xa9de, 0xa9df, 1⟩, ⟨0xaa5c, 0xaa5f, 1⟩, ⟨0xaade, 0xaadf, 1⟩,
  ⟨0xaaf0, 0xaaf1, 1⟩, ⟨0xabeb, 0xabeb, 1⟩, ⟨0xfe10, 0xfe16, 1⟩, ⟨0xfe19, 0xfe19, 1⟩,
  ⟨0xfe30, 0xfe30, 1⟩, ⟨0xfe45, 0xfe46, 1⟩, ⟨0xfe49, 0xfe4c, 1⟩, ⟨0xfe50, 0xfe52, 1⟩,
  ⟨0xfe54, 0xfe57, 1⟩, ⟨0xfe5f, 0xfe61, 1⟩, ⟨0xfe68, 0xfe68, 1⟩, ⟨0xfe6a, 0xfe6b, 1⟩,
  ⟨0xff01, 0xff03, 1⟩, ⟨0xff05, 0xff07, 1⟩, ⟨0xff0a, 0xff0a, 1⟩, ⟨0xff0c, 0xff0c, 1⟩,
  ⟨0xff0e, 0xff0f, 1⟩, ⟨0xff1a, 0xff1b, 1⟩, ⟨0xff1f, 0xff20, 1⟩, ⟨0xff3c, 0xff3c, 1⟩,
  ⟨0xff61, 0xff61, 1⟩, ⟨0xff64, 0xff65, 1⟩, ⟨0x10100, 0x10102, 1⟩, ⟨0x1039f, 0x1039f, 1⟩,
  ⟨0x103d0, 0x103d0, 1⟩, ⟨0x1056f, 0x1056f, 1⟩, ⟨0x10857, 0x10857, 1⟩, ⟨0x1091f, 0x1091f, 1⟩,
  ⟨0x1093f, 0x1093f, 1⟩, ⟨0x10a50, 0x10a58, 1⟩, ⟨0x10a7f, 0x10a7f, 1⟩, ⟨0x10af0, 0x10af6, 1⟩,
  ⟨0x10b39, 0x10b3f, 1⟩, ⟨0x10b99, 0x10b9c, 1⟩, ⟨0x10f55, 0x10f59, 1⟩, ⟨0x10f86, 0x10f89, 1⟩,
  ⟨0x11047, 0x1104d, 1⟩, ⟨0x110bb, 0x110bc, 1⟩, ⟨0x110be, 0x110c1, 1⟩, ⟨0x11140, 0x11143, 1⟩,
  ⟨0x11174, 0x11175, 1⟩, ⟨0x111c5, 0x111c8, 1⟩, ⟨0x111cd, 0x111cd, 1⟩, ⟨0x111db, 0x111db, 1⟩,
  ⟨0x111dd, 0x111df, 1⟩, ⟨0x11238, 0x1123d, 1⟩, ⟨0x112a9, 0x112a9, 1⟩, ⟨0x113d4, 0x113d5, 1⟩,
  ⟨0x113d7, 0x113d8, 1⟩, ⟨0x1144b, 0x1144f, 1⟩, ⟨0x1145a, 0x1145b, 1⟩, ⟨0x1145d, 0x1145d, 1⟩,
  ⟨0x114c6, 0x114c6, 1⟩, ⟨0x115c1, 0x115d7, 1⟩, ⟨0x11641, 0x11643, 1⟩, ⟨0x11660, 0x1166c, 1⟩,
  ⟨0x116b9, 0x116b9, 1⟩, ⟨0x1173c, 0x1173e, 1⟩, ⟨0x1183b, 0x1183b, 1⟩, ⟨0x11944, 0x11946, 1⟩,
  ⟨0x119e2, 0x119e2, 1⟩, ⟨0x11a3f, 0x11a46, 1⟩, ⟨0x11a9a, 0x11a9c, 1⟩, ⟨0x11a9e, 0x11aa2, 1⟩,
  ⟨0x11b00, 0x11b09, 1⟩, ⟨0x11be1, 0x11be1, 1⟩, ⟨0x11c41, 0x11c45, 1⟩, ⟨0x11c70, 0x11c71, 1⟩,
  ⟨0x11ef7, 0x11ef8, 1⟩, ⟨0x11f43, 0x11f4f, 1⟩, ⟨0x11fff, 0x11fff, 1⟩, ⟨0x12470, 0x12474, 1⟩,
  ⟨0x12ff1, 0x12ff2, 1⟩, ⟨0x16a6e, 0x16a6f, 1⟩, ⟨0x16af5, 0x16af5, 1⟩, ⟨0x16b37, 0x16b3b, 1⟩,
  ⟨0x16b44, 0x16b44, 1⟩, ⟨0x16d6d, 0x16d6f, 1⟩, ⟨0x16e97, 0x16e9a, 1⟩, ⟨0x16fe2, 0x16fe2, 1⟩,
  ⟨0x1bc9f, 0x1bc9f, 1⟩, ⟨0x1da87, 0x1da8b, 1⟩, ⟨0x1e5ff, 0x1e5ff, 1⟩, ⟨0x1e95e, 0x1e95f, 1⟩]

end Scopelight.Text
