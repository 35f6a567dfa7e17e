import Admission.Text.CodePoints

/-!
Classes of characters that decide where one grapheme ends and the next begins, and those that take two
columns or none of their own.
-/

namespace Admission.Text

/-- Where Extended_Pictographic changes, in increasing order. -/
def pictograph : List Nat := List.flatten
  [[169, 170, 174, 175, 8252, 8253, 8265, 8266, 8482, 8483, 8505, 8506, 8596, 8602, 8617, 8619],
   [8986, 8988, 9000, 9001, 9096, 9097, 9167, 9168, 9193, 9204, 9208, 9211, 9410, 9411, 9642],
   [9644, 9654, 9655, 9664, 9665, 9723, 9727, 9728, 9734, 9735, 9747, 9748, 9862, 9872, 9990],
   [9992, 10003, 10004, 10005, 10006, 10007, 10013, 10014, 10017, 10018, 10024, 10025, 10035],
   [10037, 10052, 10053, 10055, 10056, 10060, 10061, 10062, 10063, 10067, 10070, 10071, 10072],
   [10083, 10088, 10133, 10136, 10145, 10146, 10160, 10161, 10175, 10176, 10548, 10550, 11013],
   [11016, 11035, 11037, 11088, 11089, 11093, 11094, 12336, 12337, 12349, 12350, 12951, 12952],
   [12953, 12954, 126976, 127232, 127245, 127248, 127279, 127280, 127340, 127346, 127358, 127360],
   [127374, 127375, 127377, 127387, 127405, 127462, 127489, 127504, 127514, 127515, 127535],
   [127536, 127538, 127547, 127548, 127552, 127561, 127995, 128000, 128318, 128326, 128592],
   [128640, 128768, 128884, 128896, 128981, 129024, 129036, 129040, 129096, 129104, 129114],
   [129120, 129160, 129168, 129198, 129280, 129292, 129339, 129340, 129350, 129351, 129792],
   [130048, 131070]]

def spacingMark : List Nat := List.flatten
  [[2307, 2308, 2363, 2364, 2366, 2369, 2377, 2381, 2382, 2384, 2434, 2436, 2495, 2497, 2503],
   [2505, 2507, 2509, 2563, 2564, 2622, 2625, 2691, 2692, 2750, 2753, 2761, 2762, 2763, 2765],
   [2818, 2820, 2880, 2881, 2887, 2889, 2891, 2893, 3007, 3008, 3009, 3011, 3014, 3017, 3018],
   [3021, 3073, 3076, 3137, 3141, 3202, 3204, 3262, 3263, 3264, 3266, 3267, 3269, 3271, 3273],
   [3274, 3276, 3315, 3316, 3330, 3332, 3391, 3393, 3398, 3401, 3402, 3405, 3458, 3460, 3536],
   [3538, 3544, 3551, 3570, 3572, 3635, 3636, 3763, 3764, 3902, 3904, 3967, 3968, 4145, 4146],
   [4155, 4157, 4182, 4184, 4228, 4229, 5909, 5910, 5940, 5941, 6070, 6071, 6078, 6086, 6087],
   [6089, 6435, 6439, 6441, 6444, 6448, 6450, 6451, 6457, 6681, 6683, 6741, 6742, 6743, 6744],
   [6765, 6771, 6916, 6917, 6971, 6972, 6973, 6978, 6979, 6981, 7042, 7043, 7073, 7074, 7078],
   [7080, 7082, 7083, 7143, 7144, 7146, 7149, 7150, 7151, 7154, 7156, 7204, 7212, 7220, 7222],
   [7393, 7394, 7415, 7416, 43043, 43045, 43047, 43048, 43136, 43138, 43188, 43204, 43346, 43348],
   [43395, 43396, 43444, 43446, 43450, 43452, 43454, 43457, 43567, 43569, 43571, 43573, 43597],
   [43598, 43755, 43756, 43758, 43760, 43765, 43766, 44003, 44005, 44006, 44008, 44009, 44011],
   [44012, 44013, 69632, 69633, 69634, 69635, 69762, 69763, 69808, 69811, 69815, 69817, 69932],
   [69933, 69957, 69959, 70018, 70019, 70067, 70070, 70079, 70081, 70094, 70095, 70188, 70191],
   [70194, 70196, 70197, 70198, 70368, 70371, 70402, 70404, 70463, 70464, 70465, 70469, 70471],
   [70473, 70475, 70478, 70498, 70500, 70709, 70712, 70720, 70722, 70725, 70726, 70833, 70835],
   [70841, 70842, 70843, 70845, 70846, 70847, 70849, 70850, 71088, 71090, 71096, 71100, 71102],
   [71103, 71216, 71219, 71227, 71229, 71230, 71231, 71340, 71341, 71342, 71344, 71350, 71351],
   [71462, 71463, 71724, 71727, 71736, 71737, 71985, 71990, 71991, 71993, 71997, 71998, 72000],
   [72001, 72002, 72003, 72145, 72148, 72156, 72160, 72164, 72165, 72249, 72250, 72279, 72281],
   [72343, 72344, 72751, 72752, 72766, 72767, 72873, 72874, 72881, 72882, 72884, 72885, 73098],
   [73103, 73107, 73109, 73110, 73111, 73461, 73463, 73475, 73476, 73524, 73526, 73534, 73536],
   [73537, 73538, 94033, 94088, 94192, 94194, 119142, 119143, 119149, 119150]]

def prepended : List Nat := List.flatten
  [[1536, 1542, 1757, 1758, 1807, 1808, 2192, 2194, 2274, 2275, 3406, 3407, 69821, 69822, 69837],
   [69838, 70082, 70084, 71999, 72000, 72001, 72002, 72250, 72251, 72324, 72330, 73030, 73031],
   [73474, 73475]]

def separating : List Nat := List.flatten
  [[0, 10, 11, 13, 14, 32, 127, 160, 173, 174, 1564, 1565, 6158, 6159, 8203, 8204, 8206, 8208],
   [8232, 8239, 8288, 8304, 65279, 65280, 65520, 65532, 78896, 78912, 113824, 113828, 119155],
   [119163, 917504, 917536, 917632, 917760, 918000, 921600]]

/-- Where the East Asian widths "wide" and "full" change, in increasing order. -/
def wide : List Nat := List.flatten
  [[4352, 4448, 8986, 8988, 9001, 9003, 9193, 9197, 9200, 9201, 9203, 9204, 9725, 9727, 9748],
   [9750, 9800, 9812, 9855, 9856, 9875, 9876, 9889, 9890, 9898, 9900, 9917, 9919, 9924, 9926],
   [9934, 9935, 9940, 9941, 9962, 9963, 9970, 9972, 9973, 9974, 9978, 9979, 9981, 9982, 9989],
   [9990, 9994, 9996, 10024, 10025, 10060, 10061, 10062, 10063, 10067, 10070, 10071, 10072],
   [10133, 10136, 10160, 10161, 10175, 10176, 11035, 11037, 11088, 11089, 11093, 11094, 11904],
   [11930, 11931, 12020, 12032, 12246, 12272, 12284, 12288, 12351, 12353, 12439, 12441, 12544],
   [12549, 12592, 12593, 12687, 12688, 12772, 12784, 12831, 12832, 12872, 12880, 19904, 19968],
   [42125, 42128, 42183, 43360, 43389, 44032, 55204, 63744, 64256, 65040, 65050, 65072, 65107],
   [65108, 65127, 65128, 65132, 65281, 65377, 65504, 65511, 94176, 94181, 94192, 94194, 94208],
   [100344, 100352, 101590, 101632, 101641, 110576, 110580, 110581, 110588, 110589, 110591],
   [110592, 110883, 110898, 110899, 110928, 110931, 110933, 110934, 110948, 110952, 110960],
   [111356, 126980, 126981, 127183, 127184, 127374, 127375, 127377, 127387, 127488, 127491],
   [127504, 127548, 127552, 127561, 127568, 127570, 127584, 127590, 127744, 127777, 127789],
   [127798, 127799, 127869, 127870, 127892, 127904, 127947, 127951, 127956, 127968, 127985],
   [127988, 127989, 127992, 128063, 128064, 128065, 128066, 128253, 128255, 128318, 128331],
   [128335, 128336, 128360, 128378, 128379, 128405, 128407, 128420, 128421, 128507, 128592],
   [128640, 128710, 128716, 128717, 128720, 128723, 128725, 128728, 128732, 128736, 128747],
   [128749, 128756, 128765, 128992, 129004, 129008, 129009, 129292, 129339, 129340, 129350],
   [129351, 129536, 129648, 129661, 129664, 129673, 129680, 129726, 129727, 129734, 129742],
   [129756, 129760, 129769, 129776, 129785, 131072, 196606, 196608, 262142]]

/-- Where Default_Ignorable_Code_Point changes, in increasing order. -/
def ignorable : List Nat := List.flatten
  [[173, 174, 847, 848, 1564, 1565, 4447, 4449, 6068, 6070, 6155, 6160, 8203, 8208, 8234, 8239],
   [8288, 8304, 12644, 12645, 65024, 65040, 65279, 65280, 65440, 65441, 65520, 65529, 113824],
   [113828, 119155, 119163, 917504, 921600]]

end Admission.Text
