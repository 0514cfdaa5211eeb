import JavaTypes.Text.Unicode.Run

namespace JavaTypes.Text.Unicode

def uppercase : Points where
  runs := [.span 0xc0 0xd6, .span 0xd8 0xde, .alternating 0x100 0x136, .alternating 0x139 0x147,
    .alternating 0x14a 0x178, .alternating 0x179 0x17d, .span 0x181 0x182, .one 0x184,
    .span 0x186 0x187, .span 0x189 0x18b, .span 0x18e 0x191, .span 0x193 0x194, .span 0x196 0x198,
    .span 0x19c 0x19d, .span 0x19f 0x1a0, .alternating 0x1a2 0x1a6, .one 0x1a7, .one 0x1a9,
    .one 0x1ac, .span 0x1ae 0x1af, .span 0x1b1 0x1b3, .one 0x1b5, .span 0x1b7 0x1b8, .one 0x1bc,
    .one 0x1c4, .one 0x1c7, .one 0x1ca, .alternating 0x1cd 0x1db, .alternating 0x1de 0x1ee,
    .one 0x1f1, .one 0x1f4, .span 0x1f6 0x1f8, .alternating 0x1fa 0x232, .span 0x23a 0x23b,
    .span 0x23d 0x23e, .one 0x241, .span 0x243 0x246, .alternating 0x248 0x24e, .one 0x370,
    .one 0x372, .one 0x376, .one 0x37f, .one 0x386, .span 0x388 0x38a, .one 0x38c,
    .span 0x38e 0x38f, .span 0x391 0x3a1, .span 0x3a3 0x3ab, .one 0x3cf, .span 0x3d2 0x3d4,
    .alternating 0x3d8 0x3ee, .one 0x3f4, .one 0x3f7, .span 0x3f9 0x3fa, .span 0x3fd 0x42f,
    .alternating 0x460 0x480, .alternating 0x48a 0x4c0, .alternating 0x4c1 0x4cd,
    .alternating 0x4d0 0x52e, .span 0x531 0x556, .span 0x10a0 0x10c5, .one 0x10c7, .one 0x10cd,
    .span 0x13a0 0x13f5, .one 0x1c89, .span 0x1c90 0x1cba, .span 0x1cbd 0x1cbf,
    .alternating 0x1e00 0x1e94, .alternating 0x1e9e 0x1efe, .span 0x1f08 0x1f0f,
    .span 0x1f18 0x1f1d, .span 0x1f28 0x1f2f, .span 0x1f38 0x1f3f, .span 0x1f48 0x1f4d,
    .alternating 0x1f59 0x1f5f, .span 0x1f68 0x1f6f, .span 0x1fb8 0x1fbb, .span 0x1fc8 0x1fcb,
    .span 0x1fd8 0x1fdb, .span 0x1fe8 0x1fec, .span 0x1ff8 0x1ffb, .one 0x2102, .one 0x2107,
    .span 0x210b 0x210d, .span 0x2110 0x2112, .one 0x2115, .span 0x2119 0x211d,
    .alternating 0x2124 0x212a, .span 0x212b 0x212d, .span 0x2130 0x2133, .span 0x213e 0x213f,
    .one 0x2145, .span 0x2160 0x216f, .one 0x2183, .span 0x24b6 0x24cf, .span 0x2c00 0x2c2f,
    .one 0x2c60, .span 0x2c62 0x2c64, .alternating 0x2c67 0x2c6d, .span 0x2c6e 0x2c70, .one 0x2c72,
    .one 0x2c75, .span 0x2c7e 0x2c80, .alternating 0x2c82 0x2ce2, .one 0x2ceb, .one 0x2ced,
    .one 0x2cf2, .alternating 0xa640 0xa66c, .alternating 0xa680 0xa69a, .alternating 0xa722 0xa72e,
    .alternating 0xa732 0xa76e, .alternating 0xa779 0xa77d, .alternating 0xa77e 0xa786, .one 0xa78b,
    .one 0xa78d, .one 0xa790, .one 0xa792, .alternating 0xa796 0xa7aa, .span 0xa7ab 0xa7ae,
    .span 0xa7b0 0xa7b4, .alternating 0xa7b6 0xa7c4, .span 0xa7c5 0xa7c7, .one 0xa7c9,
    .span 0xa7cb 0xa7cc, .alternating 0xa7ce 0xa7dc, .one 0xa7f5, .span 0xff21 0xff3a,
    .span 0x10400 0x10427, .span 0x104b0 0x104d3, .span 0x10570 0x1057a, .span 0x1057c 0x1058a,
    .span 0x1058c 0x10592, .span 0x10594 0x10595, .span 0x10c80 0x10cb2, .span 0x10d50 0x10d65,
    .span 0x118a0 0x118bf, .span 0x16e40 0x16e5f, .span 0x16ea0 0x16eb8, .span 0x1d400 0x1d419,
    .span 0x1d434 0x1d44d, .span 0x1d468 0x1d481, .one 0x1d49c, .span 0x1d49e 0x1d49f, .one 0x1d4a2,
    .span 0x1d4a5 0x1d4a6, .span 0x1d4a9 0x1d4ac, .span 0x1d4ae 0x1d4b5, .span 0x1d4d0 0x1d4e9,
    .span 0x1d504 0x1d505, .span 0x1d507 0x1d50a, .span 0x1d50d 0x1d514, .span 0x1d516 0x1d51c,
    .span 0x1d538 0x1d539, .span 0x1d53b 0x1d53e, .span 0x1d540 0x1d544, .one 0x1d546,
    .span 0x1d54a 0x1d550, .span 0x1d56c 0x1d585, .span 0x1d5a0 0x1d5b9, .span 0x1d5d4 0x1d5ed,
    .span 0x1d608 0x1d621, .span 0x1d63c 0x1d655, .span 0x1d670 0x1d689, .span 0x1d6a8 0x1d6c0,
    .span 0x1d6e2 0x1d6fa, .span 0x1d71c 0x1d734, .span 0x1d756 0x1d76e, .span 0x1d790 0x1d7a8,
    .one 0x1d7ca, .span 0x1e900 0x1e921, .span 0x1f130 0x1f149, .span 0x1f150 0x1f169,
    .span 0x1f170 0x1f189]
  increasing := by decide +kernel

end JavaTypes.Text.Unicode
