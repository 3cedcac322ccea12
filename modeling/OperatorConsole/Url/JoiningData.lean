/-!
# Joining data

Code points of the Unicode character database by how they join their neighbours
in cursive writing, as ranges in base 36: the distance from the range before,
and how many code points follow the first.  A code point that no domain name may
hold can lie in any of the ranges.
-/

namespace OperatorConsole.Url

/-- Letters that join those on both sides. -/
def bothSidesTable : String :=
"17k 0 5 0 1 0 1 4 4 c 1 6 1 1 z 1 9 e i 11 1 1 9 0 1 0 1 1 14 2 2 0 i 2 5 3 1 8 1 0 1 0 1 1 v a
3 e 2 3 1 0 2 2 2 5 22 w 2e 4 2 0 1 9 1 0 a 0 1 3 2 0 t 0 2 4 1 0 g 9 5 1 2 5 1 e 30e 0 o 2g e x
1 0 sd1 1d jf2 4 e 3 1 4 1 2 a 3 41 0 1 0 3 2 1 1 1 0 2 0 s 1 9e w 1 0 bj 1 1 1 2w 2 1 g c 2 s 3
2 b 1a 0 1 1 4 0 2 1 1 1 1 0 2 0 5 0 16xj x"

/-- Letters that join the next one only. -/
def nextOnlyTable : String :=
"x9u 0 jfe 0 9 0 fc 0 ju 0"

/-- Letters that join the one before only. -/
def previousOnlyTable : String :=
"17m 3 1 0 1 0 5 3 l 0 14 2 k h 12 0 2 8 1 0 1 0 2 1 1 0 o 1 w 0 4 4 4 0 9 0 1 0 1 0 2 0 t 0 b 2
f 1 4 0 1 1 3 1 5i 0 5 1 1 0 a 0 1 2 e 0 1 p b 0 r 2 1 0 2 1 6 0 1eyz 0 1 0 1 1 3 4 a 0 3 0 2 0
a 0 41 0 1 2 3 0 2 0 1 1 1 0 n 3 ad 0 bj 0 34 0 w 0 v 1 1q 2 2 1 2 0 4 1 5 0"

/-- Marks across which letters join. -/
def transparentTable : String :=
"lc 33 7n 6 7b 18 1 0 1 1 1 1 1 0 20 a 1c k g 0 2t 6 2 5 2 1 1 3 z 0 u q 2j a 1m 8 9 0 o 3 1 8 1
2 1 4 17 2 1n 8 16 1k 1j 0 1 0 4 7 4 0 3 6 a 1 t 0 1m 0 4 3 8 0 k 1 q 4 1l 0 4 g u 1 3 0 b 1 1l
0 4 7 4 0 k 1 m 7 1m 0 2 0 1 3 8 9 b 1 u 0 1p 0 c 0 1e 0 3 0 1j 0 1 2 5 g b 1 t 0 1m 0 2 0 6 0 5
1 k 1 s 1 1l 1 4 3 8 0 k 1 t 0 20 0 7 4 2i 0 2 6 c 7 2q 0 2 8 b 6 21 1 r 0 1 0 1 0 1j d 1 4 1 1
5 1b 9 0 2u 3 1 5 1 1 2 1 p 1 4 2 g 3 d 0 2 1 6 0 f 0 jj 2 qa 2 t 1 u 1 u 1 1v 6 8 0 2 a 9 0 4n
1 y 0 3a 2 4 1 9 0 6 2 63 1 2 0 1m 0 1 8 1 0 2 7 6 c 1c 2b 1c 0 1 4 1 0 5 0 14 8 c 1 w 3 2 1 1 2
1k 0 1 1 3 0 1 2 1m 7 2 1 48 2 1 c 1 6 4 0 6 0 3 1 5i 1r k0 w 2da 2 3x 0 2o v fe 3 2z 1 n9w 3 1
9 w 1 28 1 7k 0 3 0 4 0 p 1 5 0 47 1 q h d 0 12 7 p a 1a 2 1c 0 2 3 2 1 13 0 1v 5 2 1 2 1 c 0 8
0 1b 0 1f 0 1 2 2 1 5 1 1 0 16 1 8 0 6m 0 2 0 4 0 fn4 0 ld f r1 0 6a 0 45 4 1ae e 14 7 4l 1 fx 3
1t 4 8t 1 25 5 1y a 1d 3 3f 0 1i e 15 0 2 1 a 2 1d 3 2 1 7 0 1p 2 10 4 1 7 1q 0 c 1 1g 8 a 3 2 0
2n 2 2 0 1 1 6 0 2 0 4d 0 3 7 l 1 1l 1 3 0 11 e 1y 5 d 0 1 0 1 0 e 1 2d 7 2 2 1 0 n 0 2c 5 1 0 4
1 1 1 6m 3 6 1 1 1 r 1 2d 7 2 0 1 1 2y 0 1 0 2 5 1 0 2t 0 1 0 2 3 1 4 77 8 1 1 74 1 1 0 4 0 40 7
4 0 w 9 14 5 2 3 8 0 9 5 2 2 1a c 1 1 5i 0 1 2 1 0 5l d 1 0 2a l 2 6 1 1 1 1 3e k 1 0 20 1 3 0 1
0 9n 1 b 1 1g 4 5 0 1 0 n 0 44l 0 6 e 8ug b 3 2 1xc 4 1n 6 t4 0 1r 3 29 0 f5k 1 3mp 1y f4 2 h 7
2 6 u 3 44 2 1iz 1i 4 1d 8 0 e 0 m k 11s 3z 4g 6 af 0 1p 3 e4 3 72 1 6r 0 2 0 7 1 5 0 d6 6 31 7"

end OperatorConsole.Url
