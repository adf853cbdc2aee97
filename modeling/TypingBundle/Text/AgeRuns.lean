/-!
The edition of the Unicode standard that assigned each code point, as runs in code point order. A
run is its length in decimal, left out when it is one, and a letter for the edition: `A` for the
first, and `z` for a code point that has not been assigned.
-/

namespace TypingBundle.Text

/-- The editions that assigned characters, in order; the letters `A` to `Z` and then `a` stand for
them. -/
def editions : List String := [
  "1.1", "2.0", "2.1", "3.0", "3.1", "3.2", "4.0", "4.1", "5.0", "5.1", "5.2", "6.0", "6.1", "6.2",
  "6.3", "7.0", "8.0", "9.0", "10.0", "11.0", "12.0", "12.1", "13.0", "14.0", "15.0", "15.1", "16.0"]

/-- The runs of code points assigned by the same edition, from code point zero upwards. -/
def ageRuns : List String := [
  "502A4D30A8DFG18D3G11H14I89A5D2G47AD10A5D17G70A9DF8G5H3G2AD13F4J2A2J2zA3IAP4z7AzAz20Az44AJ7AD2F",
  "ADADADAD18A2EF5G4HD12AD66AD12AD41AJ2D2F4D53A2F2A2F2A2FI28A2D8A2H2A6I16F4I16J2K2L8Pz38A2z7AT39A",
  "TAD2z2PMz17BH13B10AI9AB3H8z27A4zT5A11z4GMP5JHA9G5JAOXHAL26A5J19A3D3G6HL14A2F72A2D5AD15AD30A2G",
  "10A5DG14Dz30D3G27D2z3G30H18J49DF14z59I2z3T46K2z15Kz28L2zLz11S5z31Xz2X5za8XMP11M6P2QX8R10W11XT",
  "15RQ27MPK3AG53A2L18AKL5AK2L25A2J5LP2K2IH2IP3Az8A2z2A2z22Az7AzA3z4A2zAG7A2z2A2z3AH8zA4z2Az5A2z",
  "21AK2ST2zGAGz6A4z2A2z22Az7Az2Az2Az2A2zAz5A4z2A2z3A3zJ7z4AzA7z15AJT10z3Az7AGAz3Az22Az7Az2Az5A2z",
  "10Az3Az3A2zA15zA3G2z10AMG7zQ6Sz3Az8A2z2A2z22Az7Az2AzG4A2z8AJ2z2A2z3A7zW2A4z2Az3A2J2z11AG6L10z",
  "2Az6A3z3Az4A3z2AzAz2A3z2A3z3A3z8AH3A4z5A3z3Az4A2zJ6zA14zH12A8G5zP3AT8Az3Az23Az10AP5A2zXJ7Az3Az",
  "4A7z2Az2JQ2zX2z2A2J2z10A7zU8JRP2AT8Az3Az23Az10Az5A2z2G7Az3Az4A7z2A6zXAz2A2I2z10Az2IY12zSP2AW8A",
  "z3Az23AL16AL2SJ6AJz3Az4ALR4z3RA7RQ2A2J2z10A6J3R7JzW2Dz18D3z24Dz9DzD2z7D3zD4z6DzDz8D6z10P2z3D",
  "12z58A4z29A37z2AzAzU2AUAzUA6U4AU7AU3AzAzA2U2AU13AU3A2z5AzAz6AYz10A2z2A2M32z72Bz33BD2J4z27B4L6B",
  "DBz21B3D7BDB3Dz15DzJD2H3J4K2L37z34DJ5DJ2DJ7D3J4D6J26D64J4K2J38AzM5zM2z39A2F2HAH3M90A5K68A5K82A",
  "6K7DH63DHDz4D2z7DzDz4D2z39DHDz4D2z31DHDz4D2z7DzDz4D2z7DH7Dz23DH31DHDz4D2z7DH39DH19D2z2L2H28D3z",
  "26H6z85DQ2z6Q2zK630D9K29D3z81D8P7z13FX7FX9zX23F9z20F12z13Fz3Fz2F12z93DG2z10D6z10G6z15DX10D6z",
  "88DT7z42DJ5z70K10z29G2Pz12G4z12G4zG3z42G2z5G11z42H2K4z26H6z10HK3z2H32G28H2z2H63Kz29K2z11K6z10K",
  "6z14K2z15P2W14X49z76IXz2a45I2Xa43J3M12J6M52L8z4L56J3z15J3z51J9R2a5z43T2z3T8M8z35K4MS2PU5z108G",
  "88H7I28J15P4SXRLK2I155AB4J90A6J22A2z6A2z38A2z6A2z8AzAzAzAz31A2z53Az15Az14A2z6Az19A2z3Az9Az47AD",
  "23AF6D5F2G2HF7H5FJz4O7AF2z27Az5H8L3z11ABC3D2F4H3KLN3PQSX15z18A2D7FH4IJ15z57A2DGH15FH2IJ3K48ADI",
  "4JK2Q4z91A9D12F242A14FAD121ADF30D52F2G11H12IK11L7P4RS37A2D3a22z11A21z139A20FG150A10F80A8D8F20A",
  "2G2FHD86A2D12F2H10F8G11HJ2K2G16HI10J3K4J10KL19KLK4L24KP4AL4A2L28AL35ALAL4A3LAK7A2L7A14F31A3L",
  "24AL14AL7H4IMJM2L28F4J16F256D512F14G6H7I5J4I41J3P5J5K26P2z32PzW34P3T12PU8PS25T4Q15TU47HX47HX",
  "13I3JK3J4I6J2K107H7K2M5z45HzM5zM2z54H2M7zHL14zL23H9z7Hz7Hz7Hz7Hz7Hz7Hz7Hz7Hz32J24H4J2H19JK10M",
  "7P2R5S5TU3W11X34z26Dz89D12z214D26z12D4Z56A3D3FDAz84A2F2z6A2F94AF5z40AJSTz94Az16A24D3L5W16H20J",
  "2a9zZ16F29A2Gz36A12KG15F28A2GH50A15F12A4G47AV119A4G99A2G31AG6582D10W64G20902A22H8J8KM9Q21S5T",
  "13W3X1165D3z18D2F16DF12DF3DFD9z48K300J20z32J2L18J8M28J6PQM88K8z23H4I5J2I107J2LQ2L2M12P10LM3PRT",
  "2P6Q2T6U2X5U4W3a2z2XzXz5X3a21z3X2WP2ML5J44HW3z10K6z56I8z69JR8z12J6z28K2Q2T84J11zJ29K3z78Kz11K",
  "4z2K31Pz55J9z14J2z10J2z4J28K4P67K24z5K23M10z6L2z6L2z6L9z7Lz7Lz48P4Q2P2U4W4z80Q46K2z10K6z11172B",
  "12z23K4z49K4z2048B6702A2M59F3K2z106H38z7A12z5A5zD25Az5AzAz2Az2Az108A16LX16z365A16X64A2z54A7zX",
  "32E12AFG2X16F10H6z4A3J7P2Q21A2F2G10Az19Az4A4z3AFAz135A2zAz94A2F94A3z6A2z6A2z6A2z3A3z7Az7A10z3D",
  "C3A12Gz26Gz19Gz2Gz15G2z14G34z123G5z3G4z45G3z9G75H2P2Rz12JW3zP47z46J130z29J3z49J15z28P4z31EP4E",
  "9z3S27E5z43P5z30GzG36H4z14H42z38E2G38E80G2z10G6z36R4z36R4z40P8z52P11zP11Xz15Xz7Xz2Xz11Xz15Xz7X",
  "z2X3z52a12z311P9z22P10z8P24z6Xz42Xz9X69z6G2zGz44Gz2G3zG2zG22Kz9K63P8z9P48z19Qz2Q5z5Q26I2K3zI",
  "26J5zJ64z56M4z2Q2M16Q2z46Q4Hz2H5z8Hz3Hz27H2T2z3H4z9HT7z9H7z32K32P32z39P4z12P9z54K3z29K2z27K5z",
  "8K18P7z4P12z7P80z73K55z51Q13z51Q7z6Q40T8z10T6z38a3z29a8z2a208z31Kz42Wz3W2z2W16z3a55za3Y40T8z",
  "42T22z26X38z28W20z23U9z78L4z30L6X9zP66KX10zT2z25M7z10M6z53Mz14M3TW8z39P9z73M4QP2W10MP5Qz20P11z",
  "18Pz43PR3Y62z7QzQz4Qz15Qz11Q6z59P5z10P6zQ3Pz8P2z2P2z22Pz7Pz2Pz5PzT9P2z2P2z3P2zQ6zP5z7P2z7P3z5P",
  "11z10aza2zaz38az10aza2zaz4az10az2a8z2a29z90RWRzRTU2W30z72P8z10P166z54P2z18P20Q34z69P11z10P6z",
  "13R19z56MUX6z10M6z20a28z26QT2z15Q4z16Q7X185z60T100z83P12zP7W2zW2z8Wz2Wz30Wz2W2z12W9z10W70z8U2z",
  "46U2z11U27z72S8z52S2U23ST5S13z16X57P7z10Y182z34a14z10a6z9Rz45Rz14R10z29R3z32R2z22Rz14R73z7Sz2S",
  "z44S3zSz2Sz9S8z10S6z6Tz2Tz37Tz2Tz6T7z10T310z25T7z17Yz41Y3z28Ya85zW15z50U13zU879I42PQ102z99I12P",
  "z4IP11z196Q2636z99X13z1071KY9U29Y10z3995a5z583Q6841z58a1734z569L7z31Pz10P4z2P79Xz10X6z30P2z6P",
  "10z70P10z10Pz7Pz21P5z19P432z58a198z91T101z69M6U4zU47M9U7z17M64zRS2UW11z2W14z6125R5T6U8z755R",
  "483W41za9W8935z4Xz7Xz2Xz2L285S4X15zY29z3U2zY14z4U8z396S2308z107P5z13P3z9P7z10P2z8P3932z250a6z",
  "436a76z46X2z23X9z116X60z246E10z39E2zJ180E11Q2X21z70H122z20Y12z20T12z87G9z18I7T135z85Ez71Ez2E2z",
  "E2z2E2z4Ez12EzEz4EG2Ez65Ez4E2z8Ez7Ez28Ez4Ez5EzE3z7Ez338E2H2z290E2I2z50E652Q15z5Qz15Q1104z31X6z",
  "6Y213z7Rz17R2z7Rz2Rz5R5z62Y33zY112z45U3z14U2z10U4z2U320z31X17z58U5zU464z42Y214z43a4za480z7Xz4X",
  "z2Xz15Xz197P2z16P41z75RU4z10R4z2R785z68T76z61U194z4Mz27Mz2MzM2zMz10Mz4MzMzM6zM4zMzMzMz3Mz2MzM",
  "2zMzMzMzMzMz2MzM2z4Mz7Mz4Mz4MzMz10Mz17M5z3Mz5Mz17M52z2M270z44J4z100J12z15L2z14LPz15Lz15L22P10z",
  "11K2P3W31KTLK11LKLK2LK3LK3L5K8LK7LK10L2MU3W9LKL2K2LK10L4K2LK10L18RW56z26LK2L13z34K9LR4z9K7z2L",
  "14z6S154z33L12P3Q6LP70LP2Q20L12P37LP5L4P5Q12P17L7P8Q63LPLP182LP4L2PQ62L2P4M7P5Q24L18PR41PR86P",
  "5LM16LM3LMLMLMLM3LM6L2M4LML2M4LM12L2P2Q11L48P70L10PQ2R2SU2W4zY3X13P3z4P3R2STU2W3z116L3Y4z5Y85P",
  "4TY6z12U4zX15z12P4z56P8z10P6z40P8z30P2z2W10a4z2a62z12SW3U9Q6RS8R8SR2S12RU12RS3T15R13S5TUW4T2WX",
  "TU4T5Q13R6S11T2W6U3W2U10T6UQ2T8UWX3U23S25T84U12z14T2z4UW3Y3U2X3z3U4W2Ya5za6U19W4X3Y7W4X3YaY3W",
  "3Xa7z2Y7W3X2Ya2za8XYa6z7X2Y7z147Wz55W37a10W1028z2B42711E7W2X32z4149K4XY6z222L2z5762Q14z7473S",
  "15z622Z2466z542E1504z2B4939W5z4192Y56398z2B65534z2B65534z2B65534z2B65534z2B65534z2B65534z2B",
  "65534z2B65534z2B65534z2B65534z2BzE30z96E128z240G65038z131074B"]

end TypingBundle.Text
