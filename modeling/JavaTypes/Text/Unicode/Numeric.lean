import JavaTypes.Text.Unicode.Run

/-!
Code points of general category Nd, Nl or No, those of ASCII left out.
-/

namespace JavaTypes.Text.Unicode

def numeric : Points where
  runs := [.span 0xb2 0xb3, .one 0xb9, .span 0xbc 0xbe, .span 0x660 0x669, .span 0x6f0 0x6f9,
    .span 0x7c0 0x7c9, .span 0x966 0x96f, .span 0x9e6 0x9ef, .span 0x9f4 0x9f9, .span 0xa66 0xa6f,
    .span 0xae6 0xaef, .span 0xb66 0xb6f, .span 0xb72 0xb77, .span 0xbe6 0xbf2, .span 0xc66 0xc6f,
    .span 0xc78 0xc7e, .span 0xce6 0xcef, .span 0xd58 0xd5e, .span 0xd66 0xd78, .span 0xde6 0xdef,
    .span 0xe50 0xe59, .span 0xed0 0xed9, .span 0xf20 0xf33, .span 0x1040 0x1049,
    .span 0x1090 0x1099, .span 0x1369 0x137c, .span 0x16ee 0x16f0, .span 0x17e0 0x17e9,
    .span 0x17f0 0x17f9, .span 0x1810 0x1819, .span 0x1946 0x194f, .span 0x19d0 0x19da,
    .span 0x1a80 0x1a89, .span 0x1a90 0x1a99, .span 0x1b50 0x1b59, .span 0x1bb0 0x1bb9,
    .span 0x1c40 0x1c49, .span 0x1c50 0x1c59, .one 0x2070, .span 0x2074 0x2079, .span 0x2080 0x2089,
    .span 0x2150 0x2182, .span 0x2185 0x2189, .span 0x2460 0x249b, .span 0x24ea 0x24ff,
    .span 0x2776 0x2793, .one 0x2cfd, .one 0x3007, .span 0x3021 0x3029, .span 0x3038 0x303a,
    .span 0x3192 0x3195, .span 0x3220 0x3229, .span 0x3248 0x324f, .span 0x3251 0x325f,
    .span 0x3280 0x3289, .span 0x32b1 0x32bf, .span 0xa620 0xa629, .span 0xa6e6 0xa6ef,
    .span 0xa830 0xa835, .span 0xa8d0 0xa8d9, .span 0xa900 0xa909, .span 0xa9d0 0xa9d9,
    .span 0xa9f0 0xa9f9, .span 0xaa50 0xaa59, .span 0xabf0 0xabf9, .span 0xff10 0xff19,
    .span 0x10107 0x10133, .span 0x10140 0x10178, .span 0x1018a 0x1018b, .span 0x102e1 0x102fb,
    .span 0x10320 0x10323, .one 0x10341, .one 0x1034a, .span 0x103d1 0x103d5, .span 0x104a0 0x104a9,
    .span 0x10858 0x1085f, .span 0x10879 0x1087f, .span 0x108a7 0x108af, .span 0x108fb 0x108ff,
    .span 0x10916 0x1091b, .span 0x109bc 0x109bd, .span 0x109c0 0x109cf, .span 0x109d2 0x109ff,
    .span 0x10a40 0x10a48, .span 0x10a7d 0x10a7e, .span 0x10a9d 0x10a9f, .span 0x10aeb 0x10aef,
    .span 0x10b58 0x10b5f, .span 0x10b78 0x10b7f, .span 0x10ba9 0x10baf, .span 0x10cfa 0x10cff,
    .span 0x10d30 0x10d39, .span 0x10d40 0x10d49, .span 0x10e60 0x10e7e, .span 0x10f1d 0x10f26,
    .span 0x10f51 0x10f54, .span 0x10fc5 0x10fcb, .span 0x11052 0x1106f, .span 0x110f0 0x110f9,
    .span 0x11136 0x1113f, .span 0x111d0 0x111d9, .span 0x111e1 0x111f4, .span 0x112f0 0x112f9,
    .span 0x11450 0x11459, .span 0x114d0 0x114d9, .span 0x11650 0x11659, .span 0x116c0 0x116c9,
    .span 0x116d0 0x116e3, .span 0x11730 0x1173b, .span 0x118e0 0x118f2, .span 0x11950 0x11959,
    .span 0x11bf0 0x11bf9, .span 0x11c50 0x11c6c, .span 0x11d50 0x11d59, .span 0x11da0 0x11da9,
    .span 0x11de0 0x11de9, .span 0x11f50 0x11f59, .span 0x11fc0 0x11fd4, .span 0x12400 0x1246e,
    .span 0x16130 0x16139, .span 0x16a60 0x16a69, .span 0x16ac0 0x16ac9, .span 0x16b50 0x16b59,
    .span 0x16b5b 0x16b61, .span 0x16d70 0x16d79, .span 0x16e80 0x16e96, .span 0x16ff4 0x16ff6,
    .span 0x1ccf0 0x1ccf9, .span 0x1d2c0 0x1d2d3, .span 0x1d2e0 0x1d2f3, .span 0x1d360 0x1d378,
    .span 0x1d7ce 0x1d7ff, .span 0x1e140 0x1e149, .span 0x1e2f0 0x1e2f9, .span 0x1e4f0 0x1e4f9,
    .span 0x1e5f1 0x1e5fa, .span 0x1e8c7 0x1e8cf, .span 0x1e950 0x1e959, .span 0x1ec71 0x1ecab,
    .span 0x1ecad 0x1ecaf, .span 0x1ecb1 0x1ecb4, .span 0x1ed01 0x1ed2d, .span 0x1ed2f 0x1ed3d,
    .span 0x1f100 0x1f10c, .span 0x1fbf0 0x1fbf9]
  increasing := by decide +kernel

end JavaTypes.Text.Unicode
