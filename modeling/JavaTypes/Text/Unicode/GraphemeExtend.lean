import JavaTypes.Text.Unicode.Run

namespace JavaTypes.Text.Unicode

def graphemeExtend : Points where
  runs := [.span 0x300 0x36f, .span 0x483 0x489, .span 0x591 0x5bd, .one 0x5bf, .span 0x5c1 0x5c2,
    .span 0x5c4 0x5c5, .one 0x5c7, .span 0x610 0x61a, .span 0x64b 0x65f, .one 0x670,
    .span 0x6d6 0x6dc, .span 0x6df 0x6e4, .span 0x6e7 0x6e8, .span 0x6ea 0x6ed, .one 0x711,
    .span 0x730 0x74a, .span 0x7a6 0x7b0, .span 0x7eb 0x7f3, .one 0x7fd, .span 0x816 0x819,
    .span 0x81b 0x823, .span 0x825 0x827, .span 0x829 0x82d, .span 0x859 0x85b, .span 0x897 0x89f,
    .span 0x8ca 0x8e1, .span 0x8e3 0x902, .one 0x93a, .one 0x93c, .span 0x941 0x948, .one 0x94d,
    .span 0x951 0x957, .span 0x962 0x963, .one 0x981, .one 0x9bc, .one 0x9be, .span 0x9c1 0x9c4,
    .one 0x9cd, .one 0x9d7, .span 0x9e2 0x9e3, .one 0x9fe, .span 0xa01 0xa02, .one 0xa3c,
    .span 0xa41 0xa42, .span 0xa47 0xa48, .span 0xa4b 0xa4d, .one 0xa51, .span 0xa70 0xa71,
    .one 0xa75, .span 0xa81 0xa82, .one 0xabc, .span 0xac1 0xac5, .span 0xac7 0xac8, .one 0xacd,
    .span 0xae2 0xae3, .span 0xafa 0xaff, .one 0xb01, .one 0xb3c, .span 0xb3e 0xb3f,
    .span 0xb41 0xb44, .one 0xb4d, .span 0xb55 0xb57, .span 0xb62 0xb63, .one 0xb82, .one 0xbbe,
    .one 0xbc0, .one 0xbcd, .one 0xbd7, .one 0xc00, .one 0xc04, .one 0xc3c, .span 0xc3e 0xc40,
    .span 0xc46 0xc48, .span 0xc4a 0xc4d, .span 0xc55 0xc56, .span 0xc62 0xc63, .one 0xc81,
    .one 0xcbc, .span 0xcbf 0xcc0, .one 0xcc2, .span 0xcc6 0xcc8, .span 0xcca 0xccd,
    .span 0xcd5 0xcd6, .span 0xce2 0xce3, .span 0xd00 0xd01, .span 0xd3b 0xd3c, .one 0xd3e,
    .span 0xd41 0xd44, .one 0xd4d, .one 0xd57, .span 0xd62 0xd63, .one 0xd81, .one 0xdca,
    .one 0xdcf, .span 0xdd2 0xdd4, .one 0xdd6, .one 0xddf, .one 0xe31, .span 0xe34 0xe3a,
    .span 0xe47 0xe4e, .one 0xeb1, .span 0xeb4 0xebc, .span 0xec8 0xece, .span 0xf18 0xf19,
    .alternating 0xf35 0xf39, .span 0xf71 0xf7e, .span 0xf80 0xf84, .span 0xf86 0xf87,
    .span 0xf8d 0xf97, .span 0xf99 0xfbc, .one 0xfc6, .span 0x102d 0x1030, .span 0x1032 0x1037,
    .span 0x1039 0x103a, .span 0x103d 0x103e, .span 0x1058 0x1059, .span 0x105e 0x1060,
    .span 0x1071 0x1074, .one 0x1082, .span 0x1085 0x1086, .one 0x108d, .one 0x109d,
    .span 0x135d 0x135f, .span 0x1712 0x1715, .span 0x1732 0x1734, .span 0x1752 0x1753,
    .span 0x1772 0x1773, .span 0x17b4 0x17b5, .span 0x17b7 0x17bd, .one 0x17c6, .span 0x17c9 0x17d3,
    .one 0x17dd, .span 0x180b 0x180d, .one 0x180f, .span 0x1885 0x1886, .one 0x18a9,
    .span 0x1920 0x1922, .span 0x1927 0x1928, .one 0x1932, .span 0x1939 0x193b, .span 0x1a17 0x1a18,
    .one 0x1a1b, .one 0x1a56, .span 0x1a58 0x1a5e, .one 0x1a60, .one 0x1a62, .span 0x1a65 0x1a6c,
    .span 0x1a73 0x1a7c, .one 0x1a7f, .span 0x1ab0 0x1add, .span 0x1ae0 0x1aeb, .span 0x1b00 0x1b03,
    .span 0x1b34 0x1b3d, .span 0x1b42 0x1b44, .span 0x1b6b 0x1b73, .span 0x1b80 0x1b81,
    .span 0x1ba2 0x1ba5, .span 0x1ba8 0x1bad, .one 0x1be6, .span 0x1be8 0x1be9, .one 0x1bed,
    .span 0x1bef 0x1bf3, .span 0x1c2c 0x1c33, .span 0x1c36 0x1c37, .span 0x1cd0 0x1cd2,
    .span 0x1cd4 0x1ce0, .span 0x1ce2 0x1ce8, .one 0x1ced, .one 0x1cf4, .span 0x1cf8 0x1cf9,
    .span 0x1dc0 0x1dff, .one 0x200c, .span 0x20d0 0x20f0, .span 0x2cef 0x2cf1, .one 0x2d7f,
    .span 0x2de0 0x2dff, .span 0x302a 0x302f, .span 0x3099 0x309a, .span 0xa66f 0xa672,
    .span 0xa674 0xa67d, .span 0xa69e 0xa69f, .span 0xa6f0 0xa6f1, .one 0xa802, .one 0xa806,
    .one 0xa80b, .span 0xa825 0xa826, .one 0xa82c, .span 0xa8c4 0xa8c5, .span 0xa8e0 0xa8f1,
    .one 0xa8ff, .span 0xa926 0xa92d, .span 0xa947 0xa951, .one 0xa953, .span 0xa980 0xa982,
    .one 0xa9b3, .span 0xa9b6 0xa9b9, .span 0xa9bc 0xa9bd, .one 0xa9c0, .one 0xa9e5,
    .span 0xaa29 0xaa2e, .span 0xaa31 0xaa32, .span 0xaa35 0xaa36, .one 0xaa43, .one 0xaa4c,
    .one 0xaa7c, .one 0xaab0, .span 0xaab2 0xaab4, .span 0xaab7 0xaab8, .span 0xaabe 0xaabf,
    .one 0xaac1, .span 0xaaec 0xaaed, .one 0xaaf6, .one 0xabe5, .one 0xabe8, .one 0xabed,
    .one 0xfb1e, .span 0xfe00 0xfe0f, .span 0xfe20 0xfe2f, .span 0xff9e 0xff9f, .one 0x101fd,
    .one 0x102e0, .span 0x10376 0x1037a, .span 0x10a01 0x10a03, .span 0x10a05 0x10a06,
    .span 0x10a0c 0x10a0f, .span 0x10a38 0x10a3a, .one 0x10a3f, .span 0x10ae5 0x10ae6,
    .span 0x10d24 0x10d27, .span 0x10d69 0x10d6d, .span 0x10eab 0x10eac, .span 0x10efa 0x10eff,
    .span 0x10f46 0x10f50, .span 0x10f82 0x10f85, .one 0x11001, .span 0x11038 0x11046, .one 0x11070,
    .span 0x11073 0x11074, .span 0x1107f 0x11081, .span 0x110b3 0x110b6, .span 0x110b9 0x110ba,
    .one 0x110c2, .span 0x11100 0x11102, .span 0x11127 0x1112b, .span 0x1112d 0x11134, .one 0x11173,
    .span 0x11180 0x11181, .span 0x111b6 0x111be, .one 0x111c0, .span 0x111c9 0x111cc, .one 0x111cf,
    .span 0x1122f 0x11231, .span 0x11234 0x11237, .one 0x1123e, .one 0x11241, .one 0x112df,
    .span 0x112e3 0x112ea, .span 0x11300 0x11301, .span 0x1133b 0x1133c, .one 0x1133e, .one 0x11340,
    .one 0x1134d, .one 0x11357, .span 0x11366 0x1136c, .span 0x11370 0x11374, .one 0x113b8,
    .span 0x113bb 0x113c0, .one 0x113c2, .one 0x113c5, .span 0x113c7 0x113c9, .span 0x113ce 0x113d0,
    .one 0x113d2, .span 0x113e1 0x113e2, .span 0x11438 0x1143f, .span 0x11442 0x11444, .one 0x11446,
    .one 0x1145e, .one 0x114b0, .span 0x114b3 0x114b8, .one 0x114ba, .one 0x114bd,
    .span 0x114bf 0x114c0, .span 0x114c2 0x114c3, .one 0x115af, .span 0x115b2 0x115b5,
    .span 0x115bc 0x115bd, .span 0x115bf 0x115c0, .span 0x115dc 0x115dd, .span 0x11633 0x1163a,
    .one 0x1163d, .span 0x1163f 0x11640, .one 0x116ab, .one 0x116ad, .span 0x116b0 0x116b7,
    .one 0x1171d, .one 0x1171f, .span 0x11722 0x11725, .span 0x11727 0x1172b, .span 0x1182f 0x11837,
    .span 0x11839 0x1183a, .one 0x11930, .span 0x1193b 0x1193e, .one 0x11943, .span 0x119d4 0x119d7,
    .span 0x119da 0x119db, .one 0x119e0, .span 0x11a01 0x11a0a, .span 0x11a33 0x11a38,
    .span 0x11a3b 0x11a3e, .one 0x11a47, .span 0x11a51 0x11a56, .span 0x11a59 0x11a5b,
    .span 0x11a8a 0x11a96, .span 0x11a98 0x11a99, .one 0x11b60, .span 0x11b62 0x11b64, .one 0x11b66,
    .span 0x11c30 0x11c36, .span 0x11c38 0x11c3d, .one 0x11c3f, .span 0x11c92 0x11ca7,
    .span 0x11caa 0x11cb0, .span 0x11cb2 0x11cb3, .span 0x11cb5 0x11cb6, .span 0x11d31 0x11d36,
    .one 0x11d3a, .span 0x11d3c 0x11d3d, .span 0x11d3f 0x11d45, .one 0x11d47, .span 0x11d90 0x11d91,
    .one 0x11d95, .one 0x11d97, .span 0x11ef3 0x11ef4, .span 0x11f00 0x11f01, .span 0x11f36 0x11f3a,
    .span 0x11f40 0x11f42, .one 0x11f5a, .one 0x13440, .span 0x13447 0x13455, .span 0x1611e 0x16129,
    .span 0x1612d 0x1612f, .span 0x16af0 0x16af4, .span 0x16b30 0x16b36, .one 0x16f4f,
    .span 0x16f8f 0x16f92, .one 0x16fe4, .span 0x16ff0 0x16ff1, .span 0x1bc9d 0x1bc9e,
    .span 0x1cf00 0x1cf2d, .span 0x1cf30 0x1cf46, .span 0x1d165 0x1d169, .span 0x1d16d 0x1d172,
    .span 0x1d17b 0x1d182, .span 0x1d185 0x1d18b, .span 0x1d1aa 0x1d1ad, .span 0x1d242 0x1d244,
    .span 0x1da00 0x1da36, .span 0x1da3b 0x1da6c, .one 0x1da75, .one 0x1da84, .span 0x1da9b 0x1da9f,
    .span 0x1daa1 0x1daaf, .span 0x1e000 0x1e006, .span 0x1e008 0x1e018, .span 0x1e01b 0x1e021,
    .span 0x1e023 0x1e024, .span 0x1e026 0x1e02a, .one 0x1e08f, .span 0x1e130 0x1e136, .one 0x1e2ae,
    .span 0x1e2ec 0x1e2ef, .span 0x1e4ec 0x1e4ef, .span 0x1e5ee 0x1e5ef, .one 0x1e6e3, .one 0x1e6e6,
    .span 0x1e6ee 0x1e6ef, .one 0x1e6f5, .span 0x1e8d0 0x1e8d6, .span 0x1e944 0x1e94a,
    .span 0xe0020 0xe007f, .span 0xe0100 0xe01ef]
  increasing := by decide +kernel

end JavaTypes.Text.Unicode
