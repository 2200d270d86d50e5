import StyleLookup.Unicode.Property

/-!
# Ages

The age of a code point is the version of the standard that first gave it a meaning. What a
version knows is everything of that age or older, so the sets of the versions grow: each holds
the one before.
-/

namespace StyleLookup.Unicode

open Scalars

/-- The versions of the standard that gave code points a meaning, the oldest first. -/
def versions : List (String × String) :=
  [ ("V1_1", "1.1"), ("V2_0", "2.0"), ("V2_1", "2.1"), ("V3_0", "3.0"), ("V3_1", "3.1"),
    ("V3_2", "3.2"), ("V4_0", "4.0"), ("V4_1", "4.1"), ("V5_0", "5.0"), ("V5_1", "5.1"),
    ("V5_2", "5.2"), ("V6_0", "6.0"), ("V6_1", "6.1"), ("V6_2", "6.2"), ("V6_3", "6.3"),
    ("V7_0", "7.0"), ("V8_0", "8.0"), ("V9_0", "9.0"), ("V10_0", "10.0"), ("V11_0", "11.0"),
    ("V12_0", "12.0"), ("V12_1", "12.1"), ("V13_0", "13.0"), ("V14_0", "14.0"), ("V15_0", "15.0"),
    ("V15_1", "15.1"), ("V16_0", "16.0") ]

/--
The age of all code points that have a meaning, as stretches in increasing order. A stretch also
covers what lies behind it without a meaning.
-/
def ageStretches : List (Interval × String) := stretchesOfTable
  "0V1_1 1f6V3_0 1faV1_1 218V3_0 220V3_2 221V4_0 222V3_0 234V4_0 237V4_1 242V5_0 250V1_1 2a9V3_0
   2aeV4_0 2b0V1_1 2dfV3_0 2e0V1_1 2eaV3_0 2efV4_0 300V1_1 346V3_0 34fV3_2 350V4_0 358V4_1 35dV4_0
   360V1_1 362V3_0 363V3_2 370V5_1 374V1_1 376V5_1 37aV1_1 37bV5_0 37eV1_1 37fV7_0 384V1_1 3cfV5_1
   3d0V1_1 3d7V3_0 3d8V3_2 3daV1_1 3dbV3_0 3dcV1_1 3ddV3_0 3deV1_1 3dfV3_0 3e0V1_1 3e1V3_0 3e2V1_1
   3f4V3_1 3f6V3_2 3f7V4_0 3fcV4_1 400V3_0 401V1_1 40dV3_0 40eV1_1 450V3_0 451V1_1 45dV3_0 45eV1_1
   487V5_1 488V3_0 48aV3_2 48cV3_0 490V1_1 4c5V3_2 4c7V1_1 4c9V3_2 4cbV1_1 4cdV3_2 4cfV5_0 4d0V1_1
   4ecV3_0 4eeV1_1 4f6V4_1 4f8V1_1 4faV5_0 500V3_2 510V5_0 514V5_1 524V5_2 526V6_0 528V7_0 531V1_1
   560V11_0 561V1_1 588V11_0 589V1_1 58aV3_0 58dV7_0 58fV6_1 591V2_0 5a2V4_1 5a3V2_0 5b0V1_1
   5baV5_0 5bbV1_1 5c4V2_0 5c5V4_1 5d0V1_1 5efV11_0 5f0V1_1 600V4_0 604V6_1 605V7_0 606V5_1 60bV4_1
   60cV1_1 60dV4_0 616V5_1 61bV1_1 61cV6_3 61dV14_0 61eV4_1 61fV1_1 620V6_0 621V1_1 63bV5_1 640V1_1
   653V3_0 656V4_0 659V4_1 65fV6_0 660V1_1 66eV3_2 670V1_1 6b8V3_0 6baV1_1 6bfV3_0 6c0V1_1 6cfV3_0
   6d0V1_1 6eeV4_0 6f0V1_1 6faV3_0 6ffV4_0 700V3_0 72dV4_0 730V3_0 74dV4_0 750V4_1 76eV5_1 780V3_0
   7b1V3_2 7c0V5_0 7fdV11_0 800V5_2 840V6_0 860V10_0 870V14_0 897V16_0 898V14_0 8a0V6_1 8a1V7_0
   8a2V6_1 8adV7_0 8b3V8_0 8b5V14_0 8b6V9_0 8beV13_0 8c8V14_0 8d3V11_0 8d4V9_0 8e3V8_0 8e4V6_1
   8ffV7_0 900V5_2 901V1_1 904V4_0 905V1_1 93aV6_0 93cV1_1 94eV5_2 94fV6_0 950V1_1 955V5_2 956V6_0
   958V1_1 971V5_1 973V6_0 978V7_0 979V5_2 97bV5_0 97dV4_1 97eV5_0 980V7_0 981V1_1 9bdV4_0 9beV1_1
   9ceV4_1 9d7V1_1 9fbV5_2 9fcV10_0 9feV11_0 a01V4_0 a02V1_1 a03V4_0 a05V1_1 a51V5_1 a59V1_1
   a75V5_1 a76V11_0 a81V1_1 a8cV4_0 a8dV1_1 ae1V4_0 ae6V1_1 af0V6_1 af1V4_0 af9V8_0 afaV10_0
   b01V1_1 b35V4_0 b36V1_1 b44V5_1 b47V1_1 b55V13_0 b56V1_1 b62V5_1 b66V1_1 b71V4_0 b72V6_0 b82V1_1
   bb6V4_1 bb7V1_1 bd0V5_1 bd7V1_1 be6V4_1 be7V1_1 bf3V4_0 c00V7_0 c01V1_1 c04V11_0 c05V1_1 c34V7_0
   c35V1_1 c3cV14_0 c3dV5_1 c3eV1_1 c58V5_1 c5aV8_0 c5dV14_0 c60V1_1 c62V5_1 c66V1_1 c77V12_0
   c78V5_1 c80V9_0 c81V7_0 c82V1_1 c84V11_0 c85V1_1 cbcV4_0 cbeV1_1 cddV14_0 cdeV1_1 ce2V5_0
   ce6V1_1 cf1V5_0 cf3V15_0 d00V10_0 d01V7_0 d02V1_1 d04V13_0 d05V1_1 d29V6_0 d2aV1_1 d3aV6_0
   d3bV10_0 d3dV5_1 d3eV1_1 d44V5_1 d46V1_1 d4eV6_0 d4fV9_0 d57V1_1 d58V9_0 d5fV8_0 d60V1_1 d62V5_1
   d66V1_1 d70V5_1 d76V9_0 d79V5_1 d81V13_0 d82V3_0 de6V7_0 df2V3_0 e01V1_1 e86V12_0 e87V1_1
   e89V12_0 e8aV1_1 e8cV12_0 e8dV1_1 e8eV12_0 e94V1_1 e98V12_0 e99V1_1 ea0V12_0 ea1V1_1 ea8V12_0
   eaaV1_1 eacV12_0 eadV1_1 ebaV12_0 ebbV1_1 eceV15_0 ed0V1_1 edeV6_1 f00V2_0 f6aV3_0 f6bV5_1
   f71V2_0 f8cV6_0 f90V2_0 f96V3_0 f97V2_0 faeV3_0 fb1V2_0 fb8V3_0 fb9V2_0 fbaV3_0 fceV5_1 fcfV3_0
   fd0V4_1 fd2V5_1 fd5V5_2 fd9V6_0 1000V3_0 1022V5_1 1023V3_0 1028V5_1 1029V3_0 102bV5_1 102cV3_0
   1033V5_1 1036V3_0 103aV5_1 1040V3_0 105aV5_1 109aV5_2 109eV5_1 10a0V1_1 10c7V6_1 10d0V1_1
   10f7V3_2 10f9V4_1 10fbV1_1 10fcV4_1 10fdV6_1 1100V1_1 115aV5_2 115fV1_1 11a3V5_2 11a8V1_1
   11faV5_2 1200V3_0 1207V4_1 1208V3_0 1247V4_1 1248V3_0 1287V4_1 1288V3_0 12afV4_1 12b0V3_0
   12cfV4_1 12d0V3_0 12efV4_1 12f0V3_0 130fV4_1 1310V3_0 131fV4_1 1320V3_0 1347V4_1 1348V3_0
   135dV6_0 135fV4_1 1361V3_0 1380V4_1 13a0V3_0 13f5V8_0 1400V5_2 1401V3_0 1677V5_2 1680V3_0
   16f1V7_0 1700V3_2 170dV14_0 170eV3_2 1715V14_0 1720V3_2 1780V3_0 17ddV4_0 17e0V3_0 17f0V4_0
   1800V3_0 180fV14_0 1810V3_0 1878V11_0 1880V3_0 18aaV5_1 18b0V5_2 1900V4_0 191dV7_0 1920V4_0
   1980V4_1 19aaV5_2 19b0V4_1 19daV5_2 19deV4_1 19e0V4_0 1a00V4_1 1a20V5_2 1ab0V7_0 1abfV13_0
   1ac1V14_0 1b00V5_0 1b4cV14_0 1b4eV16_0 1b50V5_0 1b7dV14_0 1b7fV16_0 1b80V5_1 1babV6_1 1baeV5_1
   1bbaV6_1 1bc0V6_0 1c00V5_1 1c80V9_0 1c89V16_0 1c90V11_0 1cc0V6_1 1cd0V5_2 1cf3V6_1 1cf7V10_0
   1cf8V7_0 1cfaV12_0 1d00V4_0 1d6cV4_1 1dc4V5_0 1dcbV5_1 1de7V7_0 1df6V10_0 1dfaV14_0 1dfbV9_0
   1dfcV6_0 1dfdV5_2 1dfeV5_0 1e00V1_1 1e9bV2_0 1e9cV5_1 1ea0V1_1 1efaV5_1 1f00V1_1 202fV3_0
   2030V1_1 2047V3_2 2048V3_0 204eV3_2 2053V4_0 2055V4_1 2057V3_2 2058V4_1 205fV3_2 2064V5_1
   2066V6_3 206aV1_1 2071V3_2 2074V1_1 2090V4_1 2095V6_0 20a0V1_1 20abV2_0 20acV2_1 20adV3_0
   20b0V3_2 20b2V4_1 20b6V5_2 20b9V6_0 20baV6_2 20bbV7_0 20beV8_0 20bfV10_0 20c0V14_0 20d0V1_1
   20e2V3_0 20e4V3_2 20ebV4_1 20ecV5_0 20f0V5_1 2100V1_1 2139V3_0 213bV4_0 213cV4_1 213dV3_2
   214cV4_1 214dV5_0 214fV5_1 2150V5_2 2153V1_1 2183V3_0 2184V5_0 2185V5_1 2189V5_2 218aV8_0
   2190V1_1 21ebV3_0 21f4V3_2 2200V1_1 22f2V3_2 2300V1_1 2301V3_0 2302V1_1 237bV3_0 237cV3_2
   237dV3_0 239bV3_2 23cfV4_0 23d1V4_1 23dcV5_0 23e8V5_2 23e9V6_0 23f4V7_0 23fbV9_0 23ffV10_0
   2400V1_1 2425V3_0 2427V16_0 2440V1_1 24ebV3_2 24ffV4_0 2500V1_1 2596V3_2 25a0V1_1 25f0V3_0
   25f8V3_2 2600V1_1 2614V4_0 2616V3_2 2618V4_1 2619V3_0 261aV1_1 2670V3_0 2672V3_2 267eV4_1
   2680V3_2 268aV4_0 2692V4_1 269dV5_1 269eV5_2 26a0V4_0 26a2V4_1 26b2V5_0 26b3V5_1 26bdV5_2
   26c0V5_1 26c4V5_2 26ceV6_0 26cfV5_2 26e2V6_0 26e3V5_2 26e4V6_0 26e8V5_2 2700V7_0 2701V1_1
   2705V6_0 2706V1_1 270aV6_0 270cV1_1 2728V6_0 2729V1_1 274cV6_0 274dV1_1 274eV6_0 274fV1_1
   2753V6_0 2756V1_1 2757V5_2 2758V1_1 275fV6_0 2761V1_1 2768V3_2 2776V1_1 2795V6_0 2798V1_1
   27b0V6_0 27b1V1_1 27bfV6_0 27c0V4_1 27c7V5_0 27cbV6_1 27ccV5_1 27cdV6_1 27ceV6_0 27d0V3_2
   27ecV5_1 27f0V3_2 2800V3_0 2900V3_2 2b00V4_0 2b0eV4_1 2b14V5_0 2b1bV5_1 2b20V5_0 2b24V5_1
   2b4dV7_0 2b50V5_1 2b55V5_2 2b5aV7_0 2b97V13_0 2b98V7_0 2bbaV11_0 2bbdV7_0 2bc9V12_0 2bcaV7_0
   2bd2V10_0 2bd3V11_0 2becV8_0 2bf0V11_0 2bffV12_0 2c00V4_1 2c2fV14_0 2c30V4_1 2c5fV14_0 2c60V5_0
   2c6dV5_1 2c70V5_2 2c71V5_1 2c74V5_0 2c78V5_1 2c7eV5_2 2c80V4_1 2cebV5_2 2cf2V6_1 2cf9V4_1
   2d27V6_1 2d30V4_1 2d66V6_1 2d6fV4_1 2d70V6_0 2d80V4_1 2de0V5_1 2e00V4_1 2e18V5_1 2e1cV4_1
   2e1eV5_1 2e31V5_2 2e32V6_1 2e3cV7_0 2e43V9_0 2e45V10_0 2e4aV11_0 2e4fV12_0 2e50V13_0 2e53V14_0
   2e80V3_0 2ffcV15_1 3000V1_1 3038V3_0 303bV3_2 303eV3_0 303fV1_1 3095V3_2 3099V1_1 309fV3_2
   30a1V1_1 30ffV3_2 3105V1_1 312dV5_1 312eV10_0 312fV11_0 3131V1_1 31a0V3_0 31b8V6_0 31bbV13_0
   31c0V4_1 31d0V5_1 31e4V16_0 31efV15_1 31f0V3_2 3200V1_1 321dV4_0 3220V1_1 3244V5_2 3250V4_0
   3251V3_2 3260V1_1 327cV4_0 327eV4_1 327fV1_1 32b1V3_2 32c0V1_1 32ccV4_0 32d0V1_1 32ffV12_1
   3300V1_1 3377V4_0 337bV1_1 33deV4_0 33e0V1_1 33ffV4_0 3400V3_0 4db6V13_0 4dc0V4_0 4e00V1_1
   9fa6V4_1 9fbcV5_1 9fc4V5_2 9fccV6_1 9fcdV8_0 9fd6V10_0 9febV11_0 9ff0V13_0 9ffdV14_0 a000V3_0
   a4a2V3_2 a4a4V3_0 a4b4V3_2 a4b5V3_0 a4c1V3_2 a4c2V3_0 a4c5V3_2 a4c6V3_0 a4d0V5_2 a500V5_1
   a660V6_0 a662V5_1 a674V6_1 a67cV5_1 a698V7_0 a69eV8_0 a69fV6_1 a6a0V5_2 a700V4_1 a717V5_0
   a71bV5_1 a720V5_0 a722V5_1 a78dV6_0 a78fV8_0 a790V6_0 a792V6_1 a794V7_0 a7a0V6_0 a7aaV6_1
   a7abV7_0 a7aeV9_0 a7afV11_0 a7b0V7_0 a7b2V8_0 a7b8V11_0 a7baV12_0 a7c0V14_0 a7c2V12_0 a7c7V13_0
   a7cbV16_0 a7d0V14_0 a7daV16_0 a7f2V14_0 a7f5V13_0 a7f7V7_0 a7f8V6_1 a7faV6_0 a7fbV5_1 a800V4_1
   a82cV13_0 a830V5_2 a840V5_0 a880V5_1 a8c5V9_0 a8ceV5_1 a8e0V5_2 a8fcV8_0 a8feV11_0 a900V5_1
   a960V5_2 a9e0V7_0 aa00V5_1 aa60V5_2 aa7cV7_0 aa80V5_2 aae0V6_1 ab01V6_0 ab30V7_0 ab60V8_0
   ab64V7_0 ab66V12_0 ab68V13_0 ab70V8_0 abc0V5_2 ac00V2_0 d7b0V5_2 e000V1_1 fa2eV6_1 fa30V3_2
   fa6bV5_2 fa70V4_1 fb00V1_1 fb1dV3_0 fb1eV1_1 fbb2V6_0 fbc2V14_0 fbd3V1_1 fd40V14_0 fd50V1_1
   fdcfV14_0 fdd0V3_1 fdf0V1_1 fdfcV3_2 fdfdV4_0 fdfeV14_0 fe00V3_2 fe10V4_1 fe20V1_1 fe24V5_1
   fe27V7_0 fe2eV8_0 fe30V1_1 fe45V3_2 fe47V4_0 fe49V1_1 fe73V3_2 fe74V1_1 ff5fV3_2 ff61V1_1
   fff9V3_0 fffcV2_1 fffdV1_1 10000V4_0 10140V4_1 1018bV7_0 1018dV9_0 10190V5_1 1019cV13_0
   101a0V7_0 101d0V5_1 102e0V7_0 10300V3_1 1031fV7_0 10320V3_1 1032dV10_0 10330V3_1 10350V7_0
   10380V4_0 103a0V4_1 10400V3_1 10426V4_0 10428V3_1 1044eV4_0 104b0V9_0 10500V7_0 10570V14_0
   105c0V16_0 10600V7_0 10780V14_0 10800V4_0 10840V5_2 10860V7_0 108e0V8_0 10900V5_0 1091aV5_2
   1091fV5_0 10920V5_1 10980V6_1 109bcV8_0 109beV6_1 109c0V8_0 10a00V4_1 10a34V11_0 10a38V4_1
   10a48V11_0 10a50V4_1 10a60V5_2 10a80V7_0 10b00V5_2 10b80V7_0 10c00V5_2 10c80V8_0 10d00V11_0
   10d40V16_0 10e60V5_2 10e80V13_0 10ec2V16_0 10efdV15_0 10f00V11_0 10f70V14_0 10fb0V13_0
   10fe0V12_0 11000V6_0 11070V14_0 1107fV7_0 11080V5_2 110c2V14_0 110cdV11_0 110d0V6_1 11144V11_0
   11147V13_0 11150V7_0 11180V6_1 111c9V8_0 111cdV7_0 111ceV13_0 111d0V6_1 111daV7_0 111dbV8_0
   111e1V7_0 1123eV9_0 1123fV15_0 11280V8_0 112b0V7_0 11300V8_0 11301V7_0 1133bV11_0 1133cV7_0
   11350V8_0 11357V7_0 11380V16_0 11400V9_0 1145aV13_0 1145bV9_0 1145eV11_0 1145fV12_0 11460V13_0
   11480V7_0 115caV8_0 11600V7_0 11660V9_0 11680V6_1 116b8V12_0 116b9V14_0 116c0V6_1 116d0V16_0
   11700V8_0 1171aV11_0 1171dV8_0 11740V14_0 11800V11_0 118a0V7_0 11900V13_0 119a0V12_0 11a00V10_0
   11a84V12_0 11a86V10_0 11a9dV11_0 11a9eV10_0 11ab0V14_0 11ac0V7_0 11b00V15_0 11bc0V16_0 11c00V9_0
   11d00V10_0 11d60V11_0 11f00V15_0 11f5aV16_0 11fb0V13_0 11fc0V12_0 12000V5_0 1236fV7_0 12399V8_0
   12400V5_0 12463V7_0 12470V5_0 12474V7_0 12480V8_0 12f90V14_0 13000V5_2 1342fV15_0 13430V12_0
   13439V15_0 13460V16_0 14400V8_0 16100V16_0 16800V6_0 16a40V7_0 16a70V14_0 16ad0V7_0 16d40V16_0
   16e40V11_0 16f00V6_1 16f45V12_0 16f50V6_1 16f7fV12_0 16f8fV6_1 16fe0V9_0 16fe1V10_0 16fe2V12_0
   16fe4V13_0 17000V9_0 187edV11_0 187f2V12_0 18800V9_0 18af3V13_0 18cffV16_0 18d00V13_0 1aff0V14_0
   1b000V6_0 1b002V10_0 1b11fV14_0 1b132V15_0 1b150V12_0 1b155V15_0 1b164V12_0 1b170V10_0 1bc00V7_0
   1cc00V16_0 1cf00V14_0 1d000V3_1 1d129V5_1 1d12aV3_1 1d1deV8_0 1d1e9V14_0 1d200V4_1 1d2c0V15_0
   1d2e0V11_0 1d300V4_0 1d360V5_0 1d372V11_0 1d400V3_1 1d4c1V4_0 1d4c2V3_1 1d6a4V4_1 1d6a8V3_1
   1d7caV5_0 1d7ceV3_1 1d800V8_0 1df00V14_0 1df25V15_0 1e000V9_0 1e030V15_0 1e100V12_0 1e290V14_0
   1e2c0V12_0 1e4d0V15_0 1e5d0V16_0 1e7e0V14_0 1e800V7_0 1e900V9_0 1e94bV12_0 1e950V9_0 1ec71V11_0
   1ed01V12_0 1ee00V6_1 1f000V5_1 1f0a0V6_0 1f0bfV7_0 1f0c1V6_0 1f0e0V7_0 1f100V5_2 1f10bV7_0
   1f10dV13_0 1f110V5_2 1f12fV11_0 1f130V6_0 1f131V5_2 1f132V6_0 1f13dV5_2 1f13eV6_0 1f13fV5_2
   1f140V6_0 1f142V5_2 1f143V6_0 1f146V5_2 1f147V6_0 1f14aV5_2 1f14fV6_0 1f157V5_2 1f158V6_0
   1f15fV5_2 1f160V6_0 1f16aV6_1 1f16cV12_0 1f16dV13_0 1f170V6_0 1f179V5_2 1f17aV6_0 1f17bV5_2
   1f17dV6_0 1f17fV5_2 1f180V6_0 1f18aV5_2 1f18eV6_0 1f190V5_2 1f191V6_0 1f19bV9_0 1f1adV13_0
   1f1e6V6_0 1f200V5_2 1f201V6_0 1f210V5_2 1f232V6_0 1f23bV9_0 1f240V5_2 1f250V6_0 1f260V10_0
   1f300V6_0 1f321V7_0 1f32dV8_0 1f330V6_0 1f336V7_0 1f337V6_0 1f37dV7_0 1f37eV8_0 1f380V6_0
   1f394V7_0 1f3a0V6_0 1f3c5V7_0 1f3c6V6_0 1f3cbV7_0 1f3cfV8_0 1f3d4V7_0 1f3e0V6_0 1f3f1V7_0
   1f3f8V8_0 1f400V6_0 1f43fV7_0 1f440V6_0 1f441V7_0 1f442V6_0 1f4f8V7_0 1f4f9V6_0 1f4fdV7_0
   1f4ffV8_0 1f500V6_0 1f53eV7_0 1f540V6_1 1f544V7_0 1f54bV8_0 1f550V6_0 1f568V7_0 1f57aV9_0
   1f57bV7_0 1f5a4V9_0 1f5a5V7_0 1f5fbV6_0 1f600V6_1 1f601V6_0 1f611V6_1 1f612V6_0 1f615V6_1
   1f616V6_0 1f617V6_1 1f618V6_0 1f619V6_1 1f61aV6_0 1f61bV6_1 1f61cV6_0 1f61fV6_1 1f620V6_0
   1f626V6_1 1f628V6_0 1f62cV6_1 1f62dV6_0 1f62eV6_1 1f630V6_0 1f634V6_1 1f635V6_0 1f641V7_0
   1f643V8_0 1f645V6_0 1f650V7_0 1f680V6_0 1f6c6V7_0 1f6d0V8_0 1f6d1V9_0 1f6d3V10_0 1f6d5V12_0
   1f6d6V13_0 1f6dcV15_0 1f6ddV14_0 1f6e0V7_0 1f6f4V9_0 1f6f7V10_0 1f6f9V11_0 1f6faV12_0 1f6fbV13_0
   1f700V6_0 1f774V15_0 1f780V7_0 1f7d5V11_0 1f7d9V15_0 1f7e0V12_0 1f7f0V14_0 1f800V7_0 1f8b0V13_0
   1f8b2V16_0 1f900V10_0 1f90cV13_0 1f90dV12_0 1f910V8_0 1f919V9_0 1f91fV10_0 1f920V9_0 1f928V10_0
   1f930V9_0 1f931V10_0 1f933V9_0 1f93fV12_0 1f940V9_0 1f94cV10_0 1f94dV11_0 1f950V9_0 1f95fV10_0
   1f96cV11_0 1f971V12_0 1f972V13_0 1f973V11_0 1f977V13_0 1f979V14_0 1f97aV11_0 1f97bV12_0
   1f97cV11_0 1f980V8_0 1f985V9_0 1f992V10_0 1f998V11_0 1f9a3V13_0 1f9a5V12_0 1f9abV13_0 1f9aeV12_0
   1f9b0V11_0 1f9baV12_0 1f9c0V8_0 1f9c1V11_0 1f9c3V12_0 1f9cbV13_0 1f9ccV14_0 1f9cdV12_0
   1f9d0V10_0 1f9e7V11_0 1fa00V12_0 1fa60V11_0 1fa70V12_0 1fa74V13_0 1fa75V15_0 1fa78V12_0
   1fa7bV14_0 1fa80V12_0 1fa83V13_0 1fa87V15_0 1fa89V16_0 1fa90V12_0 1fa96V13_0 1faa9V14_0
   1faadV15_0 1fab0V13_0 1fab7V14_0 1fabbV15_0 1fabeV16_0 1fabfV15_0 1fac0V13_0 1fac3V14_0
   1fac6V16_0 1faceV15_0 1fad0V13_0 1fad7V14_0 1fadaV15_0 1fadcV16_0 1fae0V14_0 1fae8V15_0
   1fae9V16_0 1faf0V14_0 1faf7V15_0 1fb00V13_0 1fbcbV16_0 1fbf0V13_0 1fffeV2_0 20000V3_1 2a6d7V13_0
   2a6deV14_0 2a700V5_2 2b735V14_0 2b739V15_0 2b740V6_0 2b820V8_0 2ceb0V10_0 2ebf0V15_1 2f800V3_1
   2fffeV2_0 30000V13_0 31350V15_0 3fffeV2_0 e0001V3_1 e0100V4_0 efffeV2_0"

/-- The code points that have a meaning, be it that of a noncharacter. -/
def designated : Scalars :=
  union (complement (inCategories ["Cn"])) noncharacterCodePoint

/-- The code points that the standard knows at a version. -/
def knownAt (version : String) : Scalars :=
  let past := version :: (versions.map Prod.fst).takeWhile (· != version)
  intersection designated
    (merge ((ageStretches.filter (fun s => past.contains s.2)).map Prod.fst))

end StyleLookup.Unicode
