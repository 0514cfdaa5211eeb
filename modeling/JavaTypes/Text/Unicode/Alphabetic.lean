import JavaTypes.Text.Unicode.Run

namespace JavaTypes.Text.Unicode

def alphabetic : Points where
  runs := [.one 0xaa, .one 0xb5, .one 0xba, .span 0xc0 0xd6, .span 0xd8 0xf6, .span 0xf8 0x2c1,
    .span 0x2c6 0x2d1, .span 0x2e0 0x2e4, .one 0x2ec, .one 0x2ee, .one 0x345, .span 0x363 0x374,
    .span 0x376 0x377, .span 0x37a 0x37d, .one 0x37f, .one 0x386, .span 0x388 0x38a, .one 0x38c,
    .span 0x38e 0x3a1, .span 0x3a3 0x3f5, .span 0x3f7 0x481, .span 0x48a 0x52f, .span 0x531 0x556,
    .one 0x559, .span 0x560 0x588, .span 0x5b0 0x5bd, .one 0x5bf, .span 0x5c1 0x5c2,
    .span 0x5c4 0x5c5, .one 0x5c7, .span 0x5d0 0x5ea, .span 0x5ef 0x5f2, .span 0x610 0x61a,
    .span 0x620 0x657, .span 0x659 0x65f, .span 0x66e 0x6d3, .span 0x6d5 0x6dc, .span 0x6e1 0x6e8,
    .span 0x6ed 0x6ef, .span 0x6fa 0x6fc, .one 0x6ff, .span 0x710 0x73f, .span 0x74d 0x7b1,
    .span 0x7ca 0x7ea, .span 0x7f4 0x7f5, .one 0x7fa, .span 0x800 0x817, .span 0x81a 0x82c,
    .span 0x840 0x858, .span 0x860 0x86a, .span 0x870 0x887, .span 0x889 0x88f, .one 0x897,
    .span 0x8a0 0x8c9, .span 0x8d4 0x8df, .span 0x8e3 0x8e9, .span 0x8f0 0x93b, .span 0x93d 0x94c,
    .span 0x94e 0x950, .span 0x955 0x963, .span 0x971 0x983, .span 0x985 0x98c, .span 0x98f 0x990,
    .span 0x993 0x9a8, .span 0x9aa 0x9b0, .one 0x9b2, .span 0x9b6 0x9b9, .span 0x9bd 0x9c4,
    .span 0x9c7 0x9c8, .span 0x9cb 0x9cc, .one 0x9ce, .one 0x9d7, .span 0x9dc 0x9dd,
    .span 0x9df 0x9e3, .span 0x9f0 0x9f1, .one 0x9fc, .span 0xa01 0xa03, .span 0xa05 0xa0a,
    .span 0xa0f 0xa10, .span 0xa13 0xa28, .span 0xa2a 0xa30, .span 0xa32 0xa33, .span 0xa35 0xa36,
    .span 0xa38 0xa39, .span 0xa3e 0xa42, .span 0xa47 0xa48, .span 0xa4b 0xa4c, .one 0xa51,
    .span 0xa59 0xa5c, .one 0xa5e, .span 0xa70 0xa75, .span 0xa81 0xa83, .span 0xa85 0xa8d,
    .span 0xa8f 0xa91, .span 0xa93 0xaa8, .span 0xaaa 0xab0, .span 0xab2 0xab3, .span 0xab5 0xab9,
    .span 0xabd 0xac5, .span 0xac7 0xac9, .span 0xacb 0xacc, .one 0xad0, .span 0xae0 0xae3,
    .span 0xaf9 0xafc, .span 0xb01 0xb03, .span 0xb05 0xb0c, .span 0xb0f 0xb10, .span 0xb13 0xb28,
    .span 0xb2a 0xb30, .span 0xb32 0xb33, .span 0xb35 0xb39, .span 0xb3d 0xb44, .span 0xb47 0xb48,
    .span 0xb4b 0xb4c, .span 0xb56 0xb57, .span 0xb5c 0xb5d, .span 0xb5f 0xb63, .one 0xb71,
    .span 0xb82 0xb83, .span 0xb85 0xb8a, .span 0xb8e 0xb90, .span 0xb92 0xb95, .span 0xb99 0xb9a,
    .one 0xb9c, .span 0xb9e 0xb9f, .span 0xba3 0xba4, .span 0xba8 0xbaa, .span 0xbae 0xbb9,
    .span 0xbbe 0xbc2, .span 0xbc6 0xbc8, .span 0xbca 0xbcc, .one 0xbd0, .one 0xbd7,
    .span 0xc00 0xc0c, .span 0xc0e 0xc10, .span 0xc12 0xc28, .span 0xc2a 0xc39, .span 0xc3d 0xc44,
    .span 0xc46 0xc48, .span 0xc4a 0xc4c, .span 0xc55 0xc56, .span 0xc58 0xc5a, .span 0xc5c 0xc5d,
    .span 0xc60 0xc63, .span 0xc80 0xc83, .span 0xc85 0xc8c, .span 0xc8e 0xc90, .span 0xc92 0xca8,
    .span 0xcaa 0xcb3, .span 0xcb5 0xcb9, .span 0xcbd 0xcc4, .span 0xcc6 0xcc8, .span 0xcca 0xccc,
    .span 0xcd5 0xcd6, .span 0xcdc 0xcde, .span 0xce0 0xce3, .span 0xcf1 0xcf3, .span 0xd00 0xd0c,
    .span 0xd0e 0xd10, .span 0xd12 0xd3a, .span 0xd3d 0xd44, .span 0xd46 0xd48, .span 0xd4a 0xd4c,
    .one 0xd4e, .span 0xd54 0xd57, .span 0xd5f 0xd63, .span 0xd7a 0xd7f, .span 0xd81 0xd83,
    .span 0xd85 0xd96, .span 0xd9a 0xdb1, .span 0xdb3 0xdbb, .one 0xdbd, .span 0xdc0 0xdc6,
    .span 0xdcf 0xdd4, .one 0xdd6, .span 0xdd8 0xddf, .span 0xdf2 0xdf3, .span 0xe01 0xe3a,
    .span 0xe40 0xe46, .one 0xe4d, .span 0xe81 0xe82, .one 0xe84, .span 0xe86 0xe8a,
    .span 0xe8c 0xea3, .one 0xea5, .span 0xea7 0xeb9, .span 0xebb 0xebd, .span 0xec0 0xec4,
    .one 0xec6, .one 0xecd, .span 0xedc 0xedf, .one 0xf00, .span 0xf40 0xf47, .span 0xf49 0xf6c,
    .span 0xf71 0xf83, .span 0xf88 0xf97, .span 0xf99 0xfbc, .span 0x1000 0x1036, .one 0x1038,
    .span 0x103b 0x103f, .span 0x1050 0x108f, .span 0x109a 0x109d, .span 0x10a0 0x10c5, .one 0x10c7,
    .one 0x10cd, .span 0x10d0 0x10fa, .span 0x10fc 0x1248, .span 0x124a 0x124d, .span 0x1250 0x1256,
    .one 0x1258, .span 0x125a 0x125d, .span 0x1260 0x1288, .span 0x128a 0x128d, .span 0x1290 0x12b0,
    .span 0x12b2 0x12b5, .span 0x12b8 0x12be, .one 0x12c0, .span 0x12c2 0x12c5, .span 0x12c8 0x12d6,
    .span 0x12d8 0x1310, .span 0x1312 0x1315, .span 0x1318 0x135a, .span 0x1380 0x138f,
    .span 0x13a0 0x13f5, .span 0x13f8 0x13fd, .span 0x1401 0x166c, .span 0x166f 0x167f,
    .span 0x1681 0x169a, .span 0x16a0 0x16ea, .span 0x16ee 0x16f8, .span 0x1700 0x1713,
    .span 0x171f 0x1733, .span 0x1740 0x1753, .span 0x1760 0x176c, .span 0x176e 0x1770,
    .span 0x1772 0x1773, .span 0x1780 0x17b3, .span 0x17b6 0x17c8, .one 0x17d7, .one 0x17dc,
    .span 0x1820 0x1878, .span 0x1880 0x18aa, .span 0x18b0 0x18f5, .span 0x1900 0x191e,
    .span 0x1920 0x192b, .span 0x1930 0x1938, .span 0x1950 0x196d, .span 0x1970 0x1974,
    .span 0x1980 0x19ab, .span 0x19b0 0x19c9, .span 0x1a00 0x1a1b, .span 0x1a20 0x1a5e,
    .span 0x1a61 0x1a74, .one 0x1aa7, .span 0x1abf 0x1ac0, .span 0x1acc 0x1ace, .span 0x1b00 0x1b33,
    .span 0x1b35 0x1b43, .span 0x1b45 0x1b4c, .span 0x1b80 0x1ba9, .span 0x1bac 0x1baf,
    .span 0x1bba 0x1be5, .span 0x1be7 0x1bf1, .span 0x1c00 0x1c36, .span 0x1c4d 0x1c4f,
    .span 0x1c5a 0x1c7d, .span 0x1c80 0x1c8a, .span 0x1c90 0x1cba, .span 0x1cbd 0x1cbf,
    .span 0x1ce9 0x1cec, .span 0x1cee 0x1cf3, .span 0x1cf5 0x1cf6, .one 0x1cfa, .span 0x1d00 0x1dbf,
    .span 0x1dd3 0x1df4, .span 0x1e00 0x1f15, .span 0x1f18 0x1f1d, .span 0x1f20 0x1f45,
    .span 0x1f48 0x1f4d, .span 0x1f50 0x1f57, .alternating 0x1f59 0x1f5f, .span 0x1f60 0x1f7d,
    .span 0x1f80 0x1fb4, .span 0x1fb6 0x1fbc, .one 0x1fbe, .span 0x1fc2 0x1fc4, .span 0x1fc6 0x1fcc,
    .span 0x1fd0 0x1fd3, .span 0x1fd6 0x1fdb, .span 0x1fe0 0x1fec, .span 0x1ff2 0x1ff4,
    .span 0x1ff6 0x1ffc, .one 0x2071, .one 0x207f, .span 0x2090 0x209c, .one 0x2102, .one 0x2107,
    .span 0x210a 0x2113, .one 0x2115, .span 0x2119 0x211d, .alternating 0x2124 0x212a,
    .span 0x212b 0x212d, .span 0x212f 0x2139, .span 0x213c 0x213f, .span 0x2145 0x2149, .one 0x214e,
    .span 0x2160 0x2188, .span 0x24b6 0x24e9, .span 0x2c00 0x2ce4, .span 0x2ceb 0x2cee,
    .span 0x2cf2 0x2cf3, .span 0x2d00 0x2d25, .one 0x2d27, .one 0x2d2d, .span 0x2d30 0x2d67,
    .one 0x2d6f, .span 0x2d80 0x2d96, .span 0x2da0 0x2da6, .span 0x2da8 0x2dae, .span 0x2db0 0x2db6,
    .span 0x2db8 0x2dbe, .span 0x2dc0 0x2dc6, .span 0x2dc8 0x2dce, .span 0x2dd0 0x2dd6,
    .span 0x2dd8 0x2dde, .span 0x2de0 0x2dff, .one 0x2e2f, .span 0x3005 0x3007, .span 0x3021 0x3029,
    .span 0x3031 0x3035, .span 0x3038 0x303c, .span 0x3041 0x3096, .span 0x309d 0x309f,
    .span 0x30a1 0x30fa, .span 0x30fc 0x30ff, .span 0x3105 0x312f, .span 0x3131 0x318e,
    .span 0x31a0 0x31bf, .span 0x31f0 0x31ff, .span 0x3400 0x4dbf, .span 0x4e00 0xa48c,
    .span 0xa4d0 0xa4fd, .span 0xa500 0xa60c, .span 0xa610 0xa61f, .span 0xa62a 0xa62b,
    .span 0xa640 0xa66e, .span 0xa674 0xa67b, .span 0xa67f 0xa6ef, .span 0xa717 0xa71f,
    .span 0xa722 0xa788, .span 0xa78b 0xa7dc, .span 0xa7f1 0xa805, .span 0xa807 0xa827,
    .span 0xa840 0xa873, .span 0xa880 0xa8c3, .one 0xa8c5, .span 0xa8f2 0xa8f7, .one 0xa8fb,
    .span 0xa8fd 0xa8ff, .span 0xa90a 0xa92a, .span 0xa930 0xa952, .span 0xa960 0xa97c,
    .span 0xa980 0xa9b2, .span 0xa9b4 0xa9bf, .one 0xa9cf, .span 0xa9e0 0xa9ef, .span 0xa9fa 0xa9fe,
    .span 0xaa00 0xaa36, .span 0xaa40 0xaa4d, .span 0xaa60 0xaa76, .span 0xaa7a 0xaabe, .one 0xaac0,
    .one 0xaac2, .span 0xaadb 0xaadd, .span 0xaae0 0xaaef, .span 0xaaf2 0xaaf5, .span 0xab01 0xab06,
    .span 0xab09 0xab0e, .span 0xab11 0xab16, .span 0xab20 0xab26, .span 0xab28 0xab2e,
    .span 0xab30 0xab5a, .span 0xab5c 0xab69, .span 0xab70 0xabea, .span 0xac00 0xd7a3,
    .span 0xd7b0 0xd7c6, .span 0xd7cb 0xd7fb, .span 0xf900 0xfa6d, .span 0xfa70 0xfad9,
    .span 0xfb00 0xfb06, .span 0xfb13 0xfb17, .span 0xfb1d 0xfb28, .span 0xfb2a 0xfb36,
    .span 0xfb38 0xfb3c, .one 0xfb3e, .span 0xfb40 0xfb41, .span 0xfb43 0xfb44, .span 0xfb46 0xfbb1,
    .span 0xfbd3 0xfd3d, .span 0xfd50 0xfd8f, .span 0xfd92 0xfdc7, .span 0xfdf0 0xfdfb,
    .span 0xfe70 0xfe74, .span 0xfe76 0xfefc, .span 0xff21 0xff3a, .span 0xff41 0xff5a,
    .span 0xff66 0xffbe, .span 0xffc2 0xffc7, .span 0xffca 0xffcf, .span 0xffd2 0xffd7,
    .span 0xffda 0xffdc, .span 0x10000 0x1000b, .span 0x1000d 0x10026, .span 0x10028 0x1003a,
    .span 0x1003c 0x1003d, .span 0x1003f 0x1004d, .span 0x10050 0x1005d, .span 0x10080 0x100fa,
    .span 0x10140 0x10174, .span 0x10280 0x1029c, .span 0x102a0 0x102d0, .span 0x10300 0x1031f,
    .span 0x1032d 0x1034a, .span 0x10350 0x1037a, .span 0x10380 0x1039d, .span 0x103a0 0x103c3,
    .span 0x103c8 0x103cf, .span 0x103d1 0x103d5, .span 0x10400 0x1049d, .span 0x104b0 0x104d3,
    .span 0x104d8 0x104fb, .span 0x10500 0x10527, .span 0x10530 0x10563, .span 0x10570 0x1057a,
    .span 0x1057c 0x1058a, .span 0x1058c 0x10592, .span 0x10594 0x10595, .span 0x10597 0x105a1,
    .span 0x105a3 0x105b1, .span 0x105b3 0x105b9, .span 0x105bb 0x105bc, .span 0x105c0 0x105f3,
    .span 0x10600 0x10736, .span 0x10740 0x10755, .span 0x10760 0x10767, .span 0x10780 0x10785,
    .span 0x10787 0x107b0, .span 0x107b2 0x107ba, .span 0x10800 0x10805, .one 0x10808,
    .span 0x1080a 0x10835, .span 0x10837 0x10838, .one 0x1083c, .span 0x1083f 0x10855,
    .span 0x10860 0x10876, .span 0x10880 0x1089e, .span 0x108e0 0x108f2, .span 0x108f4 0x108f5,
    .span 0x10900 0x10915, .span 0x10920 0x10939, .span 0x10940 0x10959, .span 0x10980 0x109b7,
    .span 0x109be 0x109bf, .span 0x10a00 0x10a03, .span 0x10a05 0x10a06, .span 0x10a0c 0x10a13,
    .span 0x10a15 0x10a17, .span 0x10a19 0x10a35, .span 0x10a60 0x10a7c, .span 0x10a80 0x10a9c,
    .span 0x10ac0 0x10ac7, .span 0x10ac9 0x10ae4, .span 0x10b00 0x10b35, .span 0x10b40 0x10b55,
    .span 0x10b60 0x10b72, .span 0x10b80 0x10b91, .span 0x10c00 0x10c48, .span 0x10c80 0x10cb2,
    .span 0x10cc0 0x10cf2, .span 0x10d00 0x10d27, .span 0x10d4a 0x10d65, .one 0x10d69,
    .span 0x10d6f 0x10d85, .span 0x10e80 0x10ea9, .span 0x10eab 0x10eac, .span 0x10eb0 0x10eb1,
    .span 0x10ec2 0x10ec7, .span 0x10efa 0x10efc, .span 0x10f00 0x10f1c, .one 0x10f27,
    .span 0x10f30 0x10f45, .span 0x10f70 0x10f81, .span 0x10fb0 0x10fc4, .span 0x10fe0 0x10ff6,
    .span 0x11000 0x11045, .span 0x11071 0x11075, .span 0x11080 0x110b8, .one 0x110c2,
    .span 0x110d0 0x110e8, .span 0x11100 0x11132, .span 0x11144 0x11147, .span 0x11150 0x11172,
    .one 0x11176, .span 0x11180 0x111bf, .span 0x111c1 0x111c4, .span 0x111ce 0x111cf, .one 0x111da,
    .one 0x111dc, .span 0x11200 0x11211, .span 0x11213 0x11234, .one 0x11237, .span 0x1123e 0x11241,
    .span 0x11280 0x11286, .one 0x11288, .span 0x1128a 0x1128d, .span 0x1128f 0x1129d,
    .span 0x1129f 0x112a8, .span 0x112b0 0x112e8, .span 0x11300 0x11303, .span 0x11305 0x1130c,
    .span 0x1130f 0x11310, .span 0x11313 0x11328, .span 0x1132a 0x11330, .span 0x11332 0x11333,
    .span 0x11335 0x11339, .span 0x1133d 0x11344, .span 0x11347 0x11348, .span 0x1134b 0x1134c,
    .one 0x11350, .one 0x11357, .span 0x1135d 0x11363, .span 0x11380 0x11389, .one 0x1138b,
    .one 0x1138e, .span 0x11390 0x113b5, .span 0x113b7 0x113c0, .one 0x113c2, .one 0x113c5,
    .span 0x113c7 0x113ca, .span 0x113cc 0x113cd, .one 0x113d1, .one 0x113d3, .span 0x11400 0x11441,
    .span 0x11443 0x11445, .span 0x11447 0x1144a, .span 0x1145f 0x11461, .span 0x11480 0x114c1,
    .span 0x114c4 0x114c5, .one 0x114c7, .span 0x11580 0x115b5, .span 0x115b8 0x115be,
    .span 0x115d8 0x115dd, .span 0x11600 0x1163e, .one 0x11640, .one 0x11644, .span 0x11680 0x116b5,
    .one 0x116b8, .span 0x11700 0x1171a, .span 0x1171d 0x1172a, .span 0x11740 0x11746,
    .span 0x11800 0x11838, .span 0x118a0 0x118df, .span 0x118ff 0x11906, .one 0x11909,
    .span 0x1190c 0x11913, .span 0x11915 0x11916, .span 0x11918 0x11935, .span 0x11937 0x11938,
    .span 0x1193b 0x1193c, .span 0x1193f 0x11942, .span 0x119a0 0x119a7, .span 0x119aa 0x119d7,
    .span 0x119da 0x119df, .one 0x119e1, .span 0x119e3 0x119e4, .span 0x11a00 0x11a32,
    .span 0x11a35 0x11a3e, .span 0x11a50 0x11a97, .one 0x11a9d, .span 0x11ab0 0x11af8,
    .span 0x11b60 0x11b67, .span 0x11bc0 0x11be0, .span 0x11c00 0x11c08, .span 0x11c0a 0x11c36,
    .span 0x11c38 0x11c3e, .one 0x11c40, .span 0x11c72 0x11c8f, .span 0x11c92 0x11ca7,
    .span 0x11ca9 0x11cb6, .span 0x11d00 0x11d06, .span 0x11d08 0x11d09, .span 0x11d0b 0x11d36,
    .one 0x11d3a, .span 0x11d3c 0x11d3d, .span 0x11d3f 0x11d41, .one 0x11d43, .span 0x11d46 0x11d47,
    .span 0x11d60 0x11d65, .span 0x11d67 0x11d68, .span 0x11d6a 0x11d8e, .span 0x11d90 0x11d91,
    .span 0x11d93 0x11d96, .one 0x11d98, .span 0x11db0 0x11ddb, .span 0x11ee0 0x11ef6,
    .span 0x11f00 0x11f10, .span 0x11f12 0x11f3a, .span 0x11f3e 0x11f40, .one 0x11fb0,
    .span 0x12000 0x12399, .span 0x12400 0x1246e, .span 0x12480 0x12543, .span 0x12f90 0x12ff0,
    .span 0x13000 0x1342f, .span 0x13441 0x13446, .span 0x13460 0x143fa, .span 0x14400 0x14646,
    .span 0x16100 0x1612e, .span 0x16800 0x16a38, .span 0x16a40 0x16a5e, .span 0x16a70 0x16abe,
    .span 0x16ad0 0x16aed, .span 0x16b00 0x16b2f, .span 0x16b40 0x16b43, .span 0x16b63 0x16b77,
    .span 0x16b7d 0x16b8f, .span 0x16d40 0x16d6c, .span 0x16e40 0x16e7f, .span 0x16ea0 0x16eb8,
    .span 0x16ebb 0x16ed3, .span 0x16f00 0x16f4a, .span 0x16f4f 0x16f87, .span 0x16f8f 0x16f9f,
    .span 0x16fe0 0x16fe1, .one 0x16fe3, .span 0x16ff0 0x16ff6, .span 0x17000 0x18cd5,
    .span 0x18cff 0x18d1e, .span 0x18d80 0x18df2, .span 0x1aff0 0x1aff3, .span 0x1aff5 0x1affb,
    .span 0x1affd 0x1affe, .span 0x1b000 0x1b122, .one 0x1b132, .span 0x1b150 0x1b152, .one 0x1b155,
    .span 0x1b164 0x1b167, .span 0x1b170 0x1b2fb, .span 0x1bc00 0x1bc6a, .span 0x1bc70 0x1bc7c,
    .span 0x1bc80 0x1bc88, .span 0x1bc90 0x1bc99, .one 0x1bc9e, .span 0x1d400 0x1d454,
    .span 0x1d456 0x1d49c, .span 0x1d49e 0x1d49f, .one 0x1d4a2, .span 0x1d4a5 0x1d4a6,
    .span 0x1d4a9 0x1d4ac, .span 0x1d4ae 0x1d4b9, .one 0x1d4bb, .span 0x1d4bd 0x1d4c3,
    .span 0x1d4c5 0x1d505, .span 0x1d507 0x1d50a, .span 0x1d50d 0x1d514, .span 0x1d516 0x1d51c,
    .span 0x1d51e 0x1d539, .span 0x1d53b 0x1d53e, .span 0x1d540 0x1d544, .one 0x1d546,
    .span 0x1d54a 0x1d550, .span 0x1d552 0x1d6a5, .span 0x1d6a8 0x1d6c0, .span 0x1d6c2 0x1d6da,
    .span 0x1d6dc 0x1d6fa, .span 0x1d6fc 0x1d714, .span 0x1d716 0x1d734, .span 0x1d736 0x1d74e,
    .span 0x1d750 0x1d76e, .span 0x1d770 0x1d788, .span 0x1d78a 0x1d7a8, .span 0x1d7aa 0x1d7c2,
    .span 0x1d7c4 0x1d7cb, .span 0x1df00 0x1df1e, .span 0x1df25 0x1df2a, .span 0x1e000 0x1e006,
    .span 0x1e008 0x1e018, .span 0x1e01b 0x1e021, .span 0x1e023 0x1e024, .span 0x1e026 0x1e02a,
    .span 0x1e030 0x1e06d, .one 0x1e08f, .span 0x1e100 0x1e12c, .span 0x1e137 0x1e13d, .one 0x1e14e,
    .span 0x1e290 0x1e2ad, .span 0x1e2c0 0x1e2eb, .span 0x1e4d0 0x1e4eb, .span 0x1e5d0 0x1e5ed,
    .one 0x1e5f0, .span 0x1e6c0 0x1e6de, .span 0x1e6e0 0x1e6f5, .span 0x1e6fe 0x1e6ff,
    .span 0x1e7e0 0x1e7e6, .span 0x1e7e8 0x1e7eb, .span 0x1e7ed 0x1e7ee, .span 0x1e7f0 0x1e7fe,
    .span 0x1e800 0x1e8c4, .span 0x1e900 0x1e943, .one 0x1e947, .one 0x1e94b, .span 0x1ee00 0x1ee03,
    .span 0x1ee05 0x1ee1f, .span 0x1ee21 0x1ee22, .one 0x1ee24, .one 0x1ee27, .span 0x1ee29 0x1ee32,
    .span 0x1ee34 0x1ee37, .one 0x1ee39, .one 0x1ee3b, .one 0x1ee42, .alternating 0x1ee47 0x1ee4d,
    .span 0x1ee4e 0x1ee4f, .span 0x1ee51 0x1ee52, .one 0x1ee54, .alternating 0x1ee57 0x1ee61,
    .one 0x1ee62, .one 0x1ee64, .span 0x1ee67 0x1ee6a, .span 0x1ee6c 0x1ee72, .span 0x1ee74 0x1ee77,
    .span 0x1ee79 0x1ee7c, .one 0x1ee7e, .span 0x1ee80 0x1ee89, .span 0x1ee8b 0x1ee9b,
    .span 0x1eea1 0x1eea3, .span 0x1eea5 0x1eea9, .span 0x1eeab 0x1eebb, .span 0x1f130 0x1f149,
    .span 0x1f150 0x1f169, .span 0x1f170 0x1f189, .span 0x20000 0x2a6df, .span 0x2a700 0x2b81d,
    .span 0x2b820 0x2cead, .span 0x2ceb0 0x2ebe0, .span 0x2ebf0 0x2ee5d, .span 0x2f800 0x2fa1d,
    .span 0x30000 0x3134a, .span 0x31350 0x33479]
  increasing := by decide +kernel

end JavaTypes.Text.Unicode
