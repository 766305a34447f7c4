import Coselect.Text.Codes.Run

/-! What the full Chinese encoding adds: private characters and those with codes of four
bytes, which are counted from zero. -/

namespace Coselect.Text.Codes

/-- Codes of two bytes. -/
def gb18030 : List CodeSpan :=
  [⟨0xa140, 0xa17e, 0xe4c6⟩, ⟨0xa180, 0xa1a0, 0xe505⟩, ⟨0xa240, 0xa27e, 0xe526⟩,
   ⟨0xa280, 0xa2a0, 0xe565⟩, ⟨0xa2ab, 0xa2b0, 0xe766⟩, ⟨0xa2e3, 0xa2e3, 0x20ac⟩,
   ⟨0xa2e4, 0xa2e4, 0xe76d⟩, ⟨0xa2ef, 0xa2f0, 0xe76e⟩, ⟨0xa2fd, 0xa2fe, 0xe770⟩,
   ⟨0xa340, 0xa37e, 0xe586⟩, ⟨0xa380, 0xa3a0, 0xe5c5⟩, ⟨0xa440, 0xa47e, 0xe5e6⟩,
   ⟨0xa480, 0xa4a0, 0xe625⟩, ⟨0xa4f4, 0xa4fe, 0xe772⟩, ⟨0xa540, 0xa57e, 0xe646⟩,
   ⟨0xa580, 0xa5a0, 0xe685⟩, ⟨0xa5f7, 0xa5fe, 0xe77d⟩, ⟨0xa640, 0xa67e, 0xe6a6⟩,
   ⟨0xa680, 0xa6a0, 0xe6e5⟩, ⟨0xa6b9, 0xa6c0, 0xe785⟩, ⟨0xa6d9, 0xa6df, 0xe78d⟩,
   ⟨0xa6ec, 0xa6ed, 0xe794⟩, ⟨0xa6f3, 0xa6f3, 0xe796⟩, ⟨0xa6f6, 0xa6fe, 0xe797⟩,
   ⟨0xa740, 0xa77e, 0xe706⟩, ⟨0xa780, 0xa7a0, 0xe745⟩, ⟨0xa7c2, 0xa7d0, 0xe7a0⟩,
   ⟨0xa7f2, 0xa7fe, 0xe7af⟩, ⟨0xa896, 0xa8a0, 0xe7bc⟩, ⟨0xa8bc, 0xa8bc, 0xe7c7⟩,
   ⟨0xa8bf, 0xa8bf, 0x1f9⟩, ⟨0xa8c1, 0xa8c4, 0xe7c9⟩, ⟨0xa8ea, 0xa8fe, 0xe7cd⟩,
   ⟨0xa958, 0xa958, 0xe7e2⟩, ⟨0xa95b, 0xa95b, 0xe7e3⟩, ⟨0xa95d, 0xa95f, 0xe7e4⟩,
   ⟨0xa989, 0xa989, 0x303e⟩, ⟨0xa98a, 0xa995, 0x2ff0⟩, ⟨0xa997, 0xa9a3, 0xe7f4⟩,
   ⟨0xa9f0, 0xa9fe, 0xe801⟩, ⟨0xaaa1, 0xaafe, 0xe000⟩, ⟨0xaba1, 0xabfe, 0xe05e⟩,
   ⟨0xaca1, 0xacfe, 0xe0bc⟩, ⟨0xada1, 0xadfe, 0xe11a⟩, ⟨0xaea1, 0xaefe, 0xe178⟩,
   ⟨0xafa1, 0xaffe, 0xe1d6⟩, ⟨0xd7fa, 0xd7fe, 0xe810⟩, ⟨0xf8a1, 0xf8fe, 0xe234⟩,
   ⟨0xf9a1, 0xf9fe, 0xe292⟩, ⟨0xfaa1, 0xfafe, 0xe2f0⟩, ⟨0xfba1, 0xfbfe, 0xe34e⟩,
   ⟨0xfca1, 0xfcfe, 0xe3ac⟩, ⟨0xfda1, 0xfdfe, 0xe40a⟩, ⟨0xfe50, 0xfe50, 0x2e81⟩,
   ⟨0xfe51, 0xfe53, 0xe816⟩, ⟨0xfe54, 0xfe54, 0x2e84⟩, ⟨0xfe55, 0xfe55, 0x3473⟩,
   ⟨0xfe56, 0xfe56, 0x3447⟩, ⟨0xfe57, 0xfe57, 0x2e88⟩, ⟨0xfe58, 0xfe58, 0x2e8b⟩,
   ⟨0xfe59, 0xfe59, 0xe81e⟩, ⟨0xfe5a, 0xfe5a, 0x359e⟩, ⟨0xfe5b, 0xfe5b, 0x361a⟩,
   ⟨0xfe5c, 0xfe5c, 0x360e⟩, ⟨0xfe5d, 0xfe5d, 0x2e8c⟩, ⟨0xfe5e, 0xfe5e, 0x2e97⟩,
   ⟨0xfe5f, 0xfe5f, 0x396e⟩, ⟨0xfe60, 0xfe60, 0x3918⟩, ⟨0xfe61, 0xfe61, 0xe826⟩,
   ⟨0xfe62, 0xfe62, 0x39cf⟩, ⟨0xfe63, 0xfe63, 0x39df⟩, ⟨0xfe64, 0xfe64, 0x3a73⟩,
   ⟨0xfe65, 0xfe65, 0x39d0⟩, ⟨0xfe66, 0xfe67, 0xe82b⟩, ⟨0xfe68, 0xfe68, 0x3b4e⟩,
   ⟨0xfe69, 0xfe69, 0x3c6e⟩, ⟨0xfe6a, 0xfe6a, 0x3ce0⟩, ⟨0xfe6b, 0xfe6b, 0x2ea7⟩,
   ⟨0xfe6c, 0xfe6d, 0xe831⟩, ⟨0xfe6e, 0xfe6e, 0x2eaa⟩, ⟨0xfe6f, 0xfe6f, 0x4056⟩,
   ⟨0xfe70, 0xfe70, 0x415f⟩, ⟨0xfe71, 0xfe71, 0x2eae⟩, ⟨0xfe72, 0xfe72, 0x4337⟩,
   ⟨0xfe73, 0xfe73, 0x2eb3⟩, ⟨0xfe74, 0xfe75, 0x2eb6⟩, ⟨0xfe76, 0xfe76, 0xe83b⟩,
   ⟨0xfe77, 0xfe77, 0x43b1⟩, ⟨0xfe78, 0xfe78, 0x43ac⟩, ⟨0xfe79, 0xfe79, 0x2ebb⟩,
   ⟨0xfe7a, 0xfe7a, 0x43dd⟩, ⟨0xfe7b, 0xfe7b, 0x44d6⟩, ⟨0xfe7c, 0xfe7c, 0x4661⟩,
   ⟨0xfe7d, 0xfe7d, 0x464c⟩, ⟨0xfe7e, 0xfe7e, 0xe843⟩, ⟨0xfe80, 0xfe80, 0x4723⟩,
   ⟨0xfe81, 0xfe81, 0x4729⟩, ⟨0xfe82, 0xfe82, 0x477c⟩, ⟨0xfe83, 0xfe83, 0x478d⟩,
   ⟨0xfe84, 0xfe84, 0x2eca⟩, ⟨0xfe85, 0xfe85, 0x4947⟩, ⟨0xfe86, 0xfe86, 0x497a⟩,
   ⟨0xfe87, 0xfe87, 0x497d⟩, ⟨0xfe88, 0xfe89, 0x4982⟩, ⟨0xfe8a, 0xfe8b, 0x4985⟩,
   ⟨0xfe8c, 0xfe8c, 0x499f⟩, ⟨0xfe8d, 0xfe8d, 0x499b⟩, ⟨0xfe8e, 0xfe8e, 0x49b7⟩,
   ⟨0xfe8f, 0xfe8f, 0x49b6⟩, ⟨0xfe90, 0xfe91, 0xe854⟩, ⟨0xfe92, 0xfe92, 0x4ca3⟩,
   ⟨0xfe93, 0xfe95, 0x4c9f⟩, ⟨0xfe96, 0xfe96, 0x4c77⟩, ⟨0xfe97, 0xfe97, 0x4ca2⟩,
   ⟨0xfe98, 0xfe9e, 0x4d13⟩, ⟨0xfe9f, 0xfe9f, 0x4dae⟩, ⟨0xfea0, 0xfea0, 0xe864⟩,
   ⟨0xfea1, 0xfefe, 0xe468⟩]

/-- Codes of four bytes for the first plane. -/
def gb18030Long : List CodeSpan :=
  [⟨0x0, 0x23, 0x80⟩, ⟨0x24, 0x25, 0xa5⟩, ⟨0x26, 0x2c, 0xa9⟩, ⟨0x2d, 0x31, 0xb2⟩,
   ⟨0x32, 0x50, 0xb8⟩, ⟨0x51, 0x58, 0xd8⟩, ⟨0x59, 0x5e, 0xe2⟩, ⟨0x5f, 0x5f, 0xeb⟩,
   ⟨0x60, 0x63, 0xee⟩, ⟨0x64, 0x66, 0xf4⟩, ⟨0x67, 0x67, 0xf8⟩, ⟨0x68, 0x68, 0xfb⟩,
   ⟨0x69, 0x6c, 0xfd⟩, ⟨0x6d, 0x7d, 0x102⟩, ⟨0x7e, 0x84, 0x114⟩, ⟨0x85, 0x93, 0x11c⟩,
   ⟨0x94, 0xab, 0x12c⟩, ⟨0xac, 0xae, 0x145⟩, ⟨0xaf, 0xb2, 0x149⟩, ⟨0xb3, 0xcf, 0x14e⟩,
   ⟨0xd0, 0x131, 0x16c⟩, ⟨0x132, 0x132, 0x1cf⟩, ⟨0x133, 0x133, 0x1d1⟩, ⟨0x134, 0x134, 0x1d3⟩,
   ⟨0x135, 0x135, 0x1d5⟩, ⟨0x136, 0x136, 0x1d7⟩, ⟨0x137, 0x137, 0x1d9⟩, ⟨0x138, 0x138, 0x1db⟩,
   ⟨0x139, 0x154, 0x1dd⟩, ⟨0x155, 0x1ab, 0x1fa⟩, ⟨0x1ac, 0x1ba, 0x252⟩, ⟨0x1bb, 0x21f, 0x262⟩,
   ⟨0x220, 0x220, 0x2c8⟩, ⟨0x221, 0x22d, 0x2cc⟩, ⟨0x22e, 0x2e4, 0x2da⟩, ⟨0x2e5, 0x2e5, 0x3a2⟩,
   ⟨0x2e6, 0x2ec, 0x3aa⟩, ⟨0x2ed, 0x2ed, 0x3c2⟩, ⟨0x2ee, 0x324, 0x3ca⟩, ⟨0x325, 0x332, 0x402⟩,
   ⟨0x333, 0x333, 0x450⟩, ⟨0x334, 0x1ef1, 0x452⟩, ⟨0x1ef2, 0x1ef3, 0x2011⟩,
   ⟨0x1ef4, 0x1ef4, 0x2017⟩, ⟨0x1ef5, 0x1ef6, 0x201a⟩, ⟨0x1ef7, 0x1efd, 0x201e⟩,
   ⟨0x1efe, 0x1f06, 0x2027⟩, ⟨0x1f07, 0x1f07, 0x2031⟩, ⟨0x1f08, 0x1f08, 0x2034⟩,
   ⟨0x1f09, 0x1f0d, 0x2036⟩, ⟨0x1f0e, 0x1f7d, 0x203c⟩, ⟨0x1f7e, 0x1fd3, 0x20ad⟩,
   ⟨0x1fd4, 0x1fd4, 0x2104⟩, ⟨0x1fd5, 0x1fd7, 0x2106⟩, ⟨0x1fd8, 0x1fe3, 0x210a⟩,
   ⟨0x1fe4, 0x1fed, 0x2117⟩, ⟨0x1fee, 0x202b, 0x2122⟩, ⟨0x202c, 0x202f, 0x216c⟩,
   ⟨0x2030, 0x2045, 0x217a⟩, ⟨0x2046, 0x2047, 0x2194⟩, ⟨0x2048, 0x20b5, 0x219a⟩,
   ⟨0x20b6, 0x20bb, 0x2209⟩, ⟨0x20bc, 0x20bc, 0x2210⟩, ⟨0x20bd, 0x20bf, 0x2212⟩,
   ⟨0x20c0, 0x20c3, 0x2216⟩, ⟨0x20c4, 0x20c5, 0x221b⟩, ⟨0x20c6, 0x20c7, 0x2221⟩,
   ⟨0x20c8, 0x20c8, 0x2224⟩, ⟨0x20c9, 0x20c9, 0x2226⟩, ⟨0x20ca, 0x20cb, 0x222c⟩,
   ⟨0x20cc, 0x20d0, 0x222f⟩, ⟨0x20d1, 0x20d5, 0x2238⟩, ⟨0x20d6, 0x20df, 0x223e⟩,
   ⟨0x20e0, 0x20e2, 0x2249⟩, ⟨0x20e3, 0x20e7, 0x224d⟩, ⟨0x20e8, 0x20f4, 0x2253⟩,
   ⟨0x20f5, 0x20f6, 0x2262⟩, ⟨0x20f7, 0x20fc, 0x2268⟩, ⟨0x20fd, 0x2121, 0x2270⟩,
   ⟨0x2122, 0x2124, 0x2296⟩, ⟨0x2125, 0x212f, 0x229a⟩, ⟨0x2130, 0x2148, 0x22a6⟩,
   ⟨0x2149, 0x219a, 0x22c0⟩, ⟨0x219b, 0x22e7, 0x2313⟩, ⟨0x22e8, 0x22f1, 0x246a⟩,
   ⟨0x22f2, 0x2355, 0x249c⟩, ⟨0x2356, 0x2359, 0x254c⟩, ⟨0x235a, 0x2366, 0x2574⟩,
   ⟨0x2367, 0x2369, 0x2590⟩, ⟨0x236a, 0x2373, 0x2596⟩, ⟨0x2374, 0x2383, 0x25a2⟩,
   ⟨0x2384, 0x238b, 0x25b4⟩, ⟨0x238c, 0x2393, 0x25be⟩, ⟨0x2394, 0x2396, 0x25c8⟩,
   ⟨0x2397, 0x2398, 0x25cc⟩, ⟨0x2399, 0x23aa, 0x25d0⟩, ⟨0x23ab, 0x23c9, 0x25e6⟩,
   ⟨0x23ca, 0x23cb, 0x2607⟩, ⟨0x23cc, 0x2401, 0x260a⟩, ⟨0x2402, 0x2402, 0x2641⟩,
   ⟨0x2403, 0x2c40, 0x2643⟩, ⟨0x2c41, 0x2c42, 0x2e82⟩, ⟨0x2c43, 0x2c45, 0x2e85⟩,
   ⟨0x2c46, 0x2c47, 0x2e89⟩, ⟨0x2c48, 0x2c51, 0x2e8d⟩, ⟨0x2c52, 0x2c60, 0x2e98⟩,
   ⟨0x2c61, 0x2c62, 0x2ea8⟩, ⟨0x2c63, 0x2c65, 0x2eab⟩, ⟨0x2c66, 0x2c69, 0x2eaf⟩,
   ⟨0x2c6a, 0x2c6b, 0x2eb4⟩, ⟨0x2c6c, 0x2c6e, 0x2eb8⟩, ⟨0x2c6f, 0x2c7c, 0x2ebc⟩,
   ⟨0x2c7d, 0x2da1, 0x2ecb⟩, ⟨0x2da2, 0x2da5, 0x2ffc⟩, ⟨0x2da6, 0x2da6, 0x3004⟩,
   ⟨0x2da7, 0x2dab, 0x3018⟩, ⟨0x2dac, 0x2dad, 0x301f⟩, ⟨0x2dae, 0x2dc1, 0x302a⟩,
   ⟨0x2dc2, 0x2dc3, 0x303f⟩, ⟨0x2dc4, 0x2dca, 0x3094⟩, ⟨0x2dcb, 0x2dcc, 0x309f⟩,
   ⟨0x2dcd, 0x2dd1, 0x30f7⟩, ⟨0x2dd2, 0x2dd7, 0x30ff⟩, ⟨0x2dd8, 0x2ecd, 0x312a⟩,
   ⟨0x2ece, 0x2ed4, 0x322a⟩, ⟨0x2ed5, 0x2f45, 0x3232⟩, ⟨0x2f46, 0x302f, 0x32a4⟩,
   ⟨0x3030, 0x303b, 0x3390⟩, ⟨0x303c, 0x303d, 0x339f⟩, ⟨0x303e, 0x305f, 0x33a2⟩,
   ⟨0x3060, 0x3068, 0x33c5⟩, ⟨0x3069, 0x306a, 0x33cf⟩, ⟨0x306b, 0x306c, 0x33d3⟩,
   ⟨0x306d, 0x30dd, 0x33d6⟩, ⟨0x30de, 0x3108, 0x3448⟩, ⟨0x3109, 0x3232, 0x3474⟩,
   ⟨0x3233, 0x32a1, 0x359f⟩, ⟨0x32a2, 0x32ac, 0x360f⟩, ⟨0x32ad, 0x35a9, 0x361b⟩,
   ⟨0x35aa, 0x35fe, 0x3919⟩, ⟨0x35ff, 0x365e, 0x396f⟩, ⟨0x365f, 0x366c, 0x39d1⟩,
   ⟨0x366d, 0x36ff, 0x39e0⟩, ⟨0x3700, 0x37d9, 0x3a74⟩, ⟨0x37da, 0x38f8, 0x3b4f⟩,
   ⟨0x38f9, 0x3969, 0x3c6f⟩, ⟨0x396a, 0x3cde, 0x3ce1⟩, ⟨0x3cdf, 0x3de6, 0x4057⟩,
   ⟨0x3de7, 0x3fbd, 0x4160⟩, ⟨0x3fbe, 0x4031, 0x4338⟩, ⟨0x4032, 0x4035, 0x43ad⟩,
   ⟨0x4036, 0x4060, 0x43b2⟩, ⟨0x4061, 0x4158, 0x43de⟩, ⟨0x4159, 0x42cd, 0x44d7⟩,
   ⟨0x42ce, 0x42e1, 0x464d⟩, ⟨0x42e2, 0x43a2, 0x4662⟩, ⟨0x43a3, 0x43a7, 0x4724⟩,
   ⟨0x43a8, 0x43f9, 0x472a⟩, ⟨0x43fa, 0x4409, 0x477d⟩, ⟨0x440a, 0x45c2, 0x478e⟩,
   ⟨0x45c3, 0x45f4, 0x4948⟩, ⟨0x45f5, 0x45f6, 0x497b⟩, ⟨0x45f7, 0x45fa, 0x497e⟩,
   ⟨0x45fb, 0x45fb, 0x4984⟩, ⟨0x45fc, 0x460f, 0x4987⟩, ⟨0x4610, 0x4612, 0x499c⟩,
   ⟨0x4613, 0x4628, 0x49a0⟩, ⟨0x4629, 0x48e7, 0x49b8⟩, ⟨0x48e8, 0x490e, 0x4c78⟩,
   ⟨0x490f, 0x497d, 0x4ca4⟩, ⟨0x497e, 0x4a11, 0x4d1a⟩, ⟨0x4a12, 0x4a62, 0x4daf⟩,
   ⟨0x4a63, 0x82bc, 0x9fa6⟩, ⟨0x82bd, 0x82bd, 0xe76c⟩, ⟨0x82be, 0x82be, 0xe7c8⟩,
   ⟨0x82bf, 0x82cb, 0xe7e7⟩, ⟨0x82cc, 0x82cc, 0xe815⟩, ⟨0x82cd, 0x82d1, 0xe819⟩,
   ⟨0x82d2, 0x82d8, 0xe81f⟩, ⟨0x82d9, 0x82dc, 0xe827⟩, ⟨0x82dd, 0x82e0, 0xe82d⟩,
   ⟨0x82e1, 0x82e8, 0xe833⟩, ⟨0x82e9, 0x82ef, 0xe83c⟩, ⟨0x82f0, 0x82ff, 0xe844⟩,
   ⟨0x8300, 0x830d, 0xe856⟩, ⟨0x830e, 0x93d4, 0xe865⟩, ⟨0x93d5, 0x9420, 0xf92d⟩,
   ⟨0x9421, 0x943b, 0xf97a⟩, ⟨0x943c, 0x948c, 0xf996⟩, ⟨0x948d, 0x9495, 0xf9e8⟩,
   ⟨0x9496, 0x94af, 0xf9f2⟩, ⟨0x94b0, 0x94b0, 0xfa10⟩, ⟨0x94b1, 0x94b1, 0xfa12⟩,
   ⟨0x94b2, 0x94b4, 0xfa15⟩, ⟨0x94b5, 0x94ba, 0xfa19⟩, ⟨0x94bb, 0x94bb, 0xfa22⟩,
   ⟨0x94bc, 0x94bd, 0xfa25⟩, ⟨0x94be, 0x98c3, 0xfa2a⟩, ⟨0x98c4, 0x98c4, 0xfe32⟩,
   ⟨0x98c5, 0x98c8, 0xfe45⟩, ⟨0x98c9, 0x98c9, 0xfe53⟩, ⟨0x98ca, 0x98ca, 0xfe58⟩,
   ⟨0x98cb, 0x98cb, 0xfe67⟩, ⟨0x98cc, 0x9960, 0xfe6c⟩, ⟨0x9961, 0x99e1, 0xff5f⟩,
   ⟨0x99e2, 0x99fb, 0xffe6⟩]

end Coselect.Text.Codes
