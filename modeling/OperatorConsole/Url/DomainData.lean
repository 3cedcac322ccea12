/-!
# Domain data

Code points of the Unicode character database by what becomes of them in a
domain name, written as numbers in base 36.
-/

namespace OperatorConsole.Url

/-- Ranges of code points that stand as they are: the distance from the range
before, and how many code points follow the first. -/
def validTable : String :=
"0 1s q 10 x 6 1 0 1 1 1 0 1 1 4 1 3 0 3 0 n 0 7 w 1 0 1 0 1 0 1 0 1 0 1 0 1 0 1 0 1 0 1 0 1 0 1
0 1 0 1 0 1 0 1 0 1 0 1 0 1 0 1 0 1 0 1 0 1 0 1 0 1 0 3 0 1 1 1 0 1 0 1 0 3 0 1 0 1 0 1 0 2 0 1
0 1 0 1 0 1 0 1 0 1 0 1 0 1 0 1 0 1 0 1 0 1 0 1 0 1 0 1 0 1 0 1 0 1 0 1 0 1 0 1 0 1 0 2 0 1 0 1
0 1 0 2 0 1 0 2 0 3 1 4 0 2 0 3 2 2 0 2 0 1 0 1 0 2 0 1 1 1 0 2 0 3 0 1 0 2 2 1 6 a 0 1 0 1 0 1
0 1 0 1 0 1 0 1 1 1 0 1 0 1 0 1 0 1 0 1 0 1 0 1 0 1 1 4 0 3 0 1 0 1 0 1 0 1 0 1 0 1 0 1 0 1 0 1
0 1 0 1 0 1 0 1 0 1 0 1 0 1 0 1 0 1 0 1 0 1 0 1 0 1 0 1 0 1 0 1 0 1 0 1 0 1 0 1 6 2 0 2 1 1 0 4
0 1 0 1 0 1 0 1 2o 9 u 6 1 5 2i 2 0 3 8 1 v 1 0 1 0 1 0 1 0 3 2 i 0 r y 8 0 1 0 1 0 1 0 1 0 1 0
1 0 1 0 1 0 1 0 1 0 1 0 1 0 3 0 2 0 1 0 2 1 1f 1b 1 0 1 0 1 0 1 0 1 0 1 0 1 0 1 0 1 0 1 0 1 0 1
0 1 0 1 0 1 0 1 0 1 8 1 0 1 0 1 0 1 0 1 0 1 0 1 0 1 0 1 0 1 0 1 0 1 0 1 0 1 0 1 0 1 0 1 0 1 0 1
0 1 0 1 0 1 0 1 0 1 0 1 0 1 0 1 0 2 0 1 0 1 0 1 0 1 0 1 0 1 1 1 0 1 0 1 0 1 0 1 0 1 0 1 0 1 0 1
0 1 0 1 0 1 0 1 0 1 0 1 0 1 0 1 0 1 0 1 0 1 0 1 0 1 0 1 0 1 0 1 0 1 0 1 0 1 0 1 0 1 0 1 0 1 0 1
0 1 0 1 0 1 0 1 0 1 0 1 0 1 0 1 0 1 0 1 0 1 0 1 0 1 0 1 0 1 0 15 19 1 2 2 2 1 1i 8 q 4 5 h l 1
2f 4 2r 1 1b 2 1m 2 2s e 1m 2 1c 2 e 1 r 2 0 1 a 5 v 7 22 1 38 8 z 1 7 2 1 2 l 1 6 1 0 3 3 2 8 2
1 2 3 8 0 8 3 2 o 2 2 1 5 4 1 2 l 1 6 1 0 2 0 2 1 2 0 1 4 4 1 2 2 3 0 a 0 9 g a 2 1 8 1 2 1 l 1
6 1 1 1 4 2 9 1 2 1 2 2 0 f 3 2 b 7 6 1 2 1 7 2 1 2 l 1 6 1 1 1 4 2 8 2 1 2 2 5 4 7 4 2 h a 1 1
5 3 2 1 3 3 1 1 0 1 1 3 1 3 2 3 b 4 4 3 2 1 3 2 0 6 0 e k 5 c 1 2 1 m 1 f 2 8 1 2 1 3 7 1 1 2 1
1 2 3 2 9 7 l 1 2 1 m 1 9 1 4 2 8 1 2 1 3 7 1 5 2 1 3 2 9 1 2 c c 1 2 1 1e 1 2 1 5 4 f 2 p 1 2 1
h 3 n 1 8 1 0 2 6 3 0 4 5 1 0 1 7 6 9 2 2 c 1d 1 6 4 s 11 1 1 0 1 4 1 n 1 0 1 b 1 9 2 4 1 0 1 6
1 9 4 1 w b 1 1h 1 3 1 3 1 3 1 3 1 3 1 b 1 2 4 1 1 0 5 6 1 g 1 3 1 3 1 3 1 3 1 3 1 b 1 2 1 e 1 c
11 4f 1c 17 1 2p 2 6f 1 3 2 6 1 0 1 3 2 14 1 3 2 w 1 3 2 6 1 0 1 3 2 e 1 1k 1 3 2 1u 2 v 3 p 6
2d a hr 1 r 3 2g 7 l 9 n 9 j c c 1 2 1 1 c 1f 2 13 2 9 6 9 6 a 5 9 6 2g 7 16 5 1x a u 1 b 4 b 4
0 3 15 2 4 b 17 4 p 6 a 3 1p 2 1s 1 s 2 a 6 9 6 d 2 1s f 24 1 4l 8 1n 3 e 3 1e a 0 1h 7 8 16 5
17 3 0 b 0 i 0 s c 1 x 11 1r 1 0 1 0 1 0 1 0 1 0 1 0 1 0 1 0 1 0 1 0 1 0 1 0 1 0 1 0 1 0 1 0 1 0
1 0 1 0 1 0 1 0 1 0 1 0 1 0 1 0 1 0 1 0 1 0 1 0 1 0 1 0 1 0 1 0 1 0 1 0 1 0 1 0 1 0 1 0 1 0 1 0
1 0 1 0 1 0 1 0 1 0 1 0 1 0 1 0 1 0 1 0 1 0 1 0 1 0 1 0 1 0 1 0 1 0 1 0 1 0 1 0 1 0 1 0 1 0 1 0
1 0 1 0 1 0 1 0 1 0 1 0 1 0 1 0 1 0 1 4 2 1 1 0 1 0 1 0 1 0 1 0 1 0 1 0 1 0 1 0 1 0 1 0 1 0 1 0
1 0 1 0 1 0 1 0 1 0 1 0 1 0 1 0 1 0 1 0 1 0 1 0 1 0 1 0 1 0 1 0 1 0 1 0 1 0 1 0 1 0 1 0 1 0 1 0
1 0 1 0 1 0 1 0 1 0 1 0 1 0 1 0 1 0 1 0 1 0 1 8 8 5 a 7 8 7 8 5 a 7 8 7 8 0 1 0 1 0 1 0 1 0 1 0
1 0 1f 1 4 0 f 0 9 2 3 1 8 2 1 3 e 0 l 1 2 0 1 4 1 b 3 0 8 2 2 0 2 3 1 0 1 7 3 c 1 6 1c 0 g 7 1
p d w j 0 3 0 b 0 2 1 5 1 3 0 1 0 1 0 1 0 4 0 b 0 6 3 5 5 1c 2 1 4 1 1 4 4b 2 0 2 6v 2 72 m a 4g
10g 1 2u 3 2s 1 46 2 3t 1c 1b 1 0 3 1 1 0 1 0 1 0 4 0 1 1 1 5 5 0 1 0 1 0 1 0 1 0 1 0 1 0 1 0 1
0 1 0 1 0 1 0 1 0 1 0 1 0 1 0 1 0 1 0 1 0 1 0 1 0 1 0 1 0 1 0 1 0 1 0 1 0 1 0 1 0 1 0 1 0 1 0 1
0 1 0 1 0 1 0 1 0 1 0 1 0 1 0 1 0 1 0 1 0 1 0 1 0 1 0 1 0 1 0 1 0 1 7 1 0 1 3 1 0 5 18 1 0 5 0 2
1j 8 0 e n 9 6 1 6 1 6 1 6 1 6 1 6 1 6 1 6 1 3k v p 1 3 1 2a 7i 0 1 1e 1 0 3 4 1 2d 2 1 2 1 1 2m
6 16 2o 1 e 1x a f 20 7 1b 0 ao m8c 3 1i 9 9n l 0 1 0 1 0 1 0 1 0 1 0 1 0 1 0 1 0 1 0 1 0 1 0 1
0 1 0 1 0 1 0 1 0 1 0 1 0 1 0 1 0 1 0 1 i 1 0 1 0 1 0 1 0 1 0 1 0 1 0 1 0 1 0 1 0 1 0 1 0 1 0 1
0 2 2h 8 x 1 0 1 0 1 0 1 0 1 0 1 0 1 2 1 0 1 0 1 0 1 0 1 0 1 0 1 0 1 0 1 0 1 0 1 0 1 0 1 0 1 0 1
0 1 0 1 0 1 0 1 0 1 0 1 0 1 0 1 0 1 0 1 0 1 0 1 0 1 0 1 0 1 0 1 0 1 7 1 0 1 0 2 0 1 0 1 0 1 0 1
3 1 0 1 1 1 0 1 2 1 0 1 0 1 0 1 0 1 0 1 0 1 0 1 0 1 0 1 0 5 0 5 0 1 0 1 0 1 0 1 0 1 0 1 0 1 0 4
0 1 0 2 0 1 0 1 0 1 0 1 0 1 0 1 0 1 0 q 1 2 1e 3 9 6 1j 8 1x 8 b 6 37 b t 3 25 1 a 4 w 1 1i 9 d
2 9 2 2u o r a 5 2 5 2 5 9 6 1 6 1 17 4 8 1 1 2c 19 2 9 6 8mb c m 4 1c 6qa 1 1 0 1 1 a 0 1 0 1 1
2 2 6s 0 43 w a3 h 1s 1 1i 7 19 2 w f l 1 18 0 b0 b 1 p 1 i 1 1 1 e 2 d y 3e 5 2 4 18 3 2f 1 c 3
0 1b 19 3m s 3 1c f r 4 z 9 t 5 16 5 t 1 10 4 d 2a 39 2 9 1a z 4 13 8 1f b 0 13 a 1 e 1 6 1 1 3
1f c 8m 9 l a 7 o 0 3j 5 2 0 1 17 1 1 3 0 2 m 1 1z 8 8 1c i 1 1 5 w 3 q 5 q 12 1j 4 j 2 1d 1 1 5
7 1 2 1 s 2 2 4 9 7 8 7 1r w 12 4 b 9 1h 3 s 2 q 5 p 7 3 c 6 28 20 3b 1e 7 19 8 9 6 f p s 8 1 5s
u 1 15 1 2 2 1 g 5 8 8 x 19 8 15 m p 12 r k m 9 25 4 z 9 1p 1 4 d o 7 9 6 1g 1 h 8 12 9 2n 1 j b
h 1 1a 1q 6 1 0 1 3 1 e 1 a 6 1m 5 9 6 3 1 7 2 1 2 l 1 6 1 1 1 4 1 9 2 1 2 2 2 0 6 0 5 6 2 6 3 4
b 9 1 0 2 0 1 11 1 9 1 0 2 0 1 3 1 9 1 1 8 1 t 2j 1 4 u 1z 8 9 4m 1h 2 11 y 1w b 9 6 c j 1l 6 9
6 j s q 2 e 4 m 55 1n 3o 1e c 7 2 0 2 7 1 1 1 t 1 1 2 b 9 9 1y 7 2 19 2 a r 1z 8 2a d 20 7 9 2e
7 2g x e 9 6 8 1 18 1 d a s 3 v 2 l 1 d 21 6 1 1 1 17 3 0 1 1 1 8 8 9 6 5 1 1 1 10 1 1 1 5 7 9 6
17 4 9 6u o 7 g 1 14 3 s 2d 0 f 1d d pm 2u 32 1 4 b 5f 218 2q d tr g l a 32y 5 g6 5a1 1l 1c6 fs
7 u 1 9 4 28 1 9 6 t 2 5 a 1x a 9 1 6 1 k 5 i c0 1l 6e 1m w o 18 22 4 1k 7 g 1s 4 b 6 9 5p1 15 v
2p 36 6pp 3 1 6 1 1 1 82 f 0 t 2 2 0 e 3 8 az 1s4 2y 5 c 3 8 7 9 2 3 31c 5x 10 2 3 c3 6 m f g f
19 2 m 9 37 1o 6t a 12 2 1g 7 d 8 1r 6 15 l 1x 3e j c j c 2e 9 o w7 i3 f 4 1 e uo u 6 5 5x 6 1 g
2 6 1 1 1 4 2s 0 34 18 3 d 2 9 4 1 8w u h 1l 5 0 cw 15 5y 16 4 0 5c u 1 l 8 1 68 6 1 3 1 1 1 e 1
5g 2 f 23 15 4 9 4 1 lt 1v 24 1o c2 1 7i 17 4 2r c e 2 e 1 e 1 10 l 4 v 0 w p 3 y 1 s 1k p 2o 5
4a rc 3 g 3 c 3 61 6 b 4 0 f b 4 1j 8 9 6 13 8 t 2 b 4 1 e 8 13 9j 8 d 2 c 3 a 3 1k 1 0 4 g 1 b
4 9 7 42 1 2j a 0 sl wyn w 3dq 1 4gd 2 5rk f h9 3he 3t6 5 6jt upy 8qn"

/-- Ranges of code points that are left out, written as the valid ones are. -/
def ignoredTable : String :=
"4t 0 ip 0 2rz 1 18z 1 2d 4 1kr 0 2c 4 5 5 3ck 0 14ez f 6n 0 4g 0 11bz 3 43z 7 h479 6n"

/-- Runs of code points that are replaced by one character each: the first code
point, the distance to the last, the distance between two of them, and what
replaces the first. -/
def replacedTable : String :=
"1t p 1 2p 4g 0 1 w 4q 0 1 2p 4y 1 1 1e 51 0 1 qk 55 0 1 1d 56 0 1 33 5c m 1 68 60 6 1 6w 74 1a 2
75 8k 2 2 8l 8p 4 2 8q 8x 6 2 8y 96 18 2 97 ag 0 1 73 ah 4 2 ai an 0 1 37 ap 0 1 gj aq 2 2 ar au
0 1 gk av 0 1 aw ax 1 1 gm az 0 1 b0 b2 0 1 d9 b3 0 1 gp b4 0 1 gr b5 0 1 b6 b7 0 1 gw b8 0 1 gz
ba 0 1 h5 bb 0 1 h4 bc 0 1 bd bg 0 1 hb bh 0 1 he bj 0 1 hh bk 4 2 bl bq 0 1 hs br 0 1 bs bt 0 1
hv bw 0 1 bx by 0 1 i0 bz 0 1 c0 c1 1 1 i2 c3 2 2 c4 c7 0 1 ia c8 0 1 c9 cc 0 1 cd ct e 2 cu da
g 2 db dw 0 1 dx dy 0 1 b9 dz 0 1 cf e0 12 2 e1 f4 0 1 bi f6 g 2 f7 fu 0 1 8rp fv 0 1 fw fx 0 1
be fy 0 1 8rq g1 0 1 g2 g3 0 1 ao g4 0 1 i1 g5 0 1 i4 g6 8 2 g7 j4 0 1 2w j5 0 1 h2 j6 0 1 2y j7
0 1 36 j8 0 1 hl j9 0 1 hn ja 0 1 ht jb 0 1 3b jc 0 1 3d kg 0 1 gz kh 0 1 30 ki 0 1 37 kj 0 1 3c
kk 0 1 id n4 1 1 lc n7 0 1 lv n9 0 1 qh og 2 2 oh ok 0 1 jd om 0 1 on ou 0 1 1n ov 0 1 s3 p2 0 1
q4 p3 0 1 53 p4 2 1 q5 p8 0 1 r0 pa 1 1 r1 pd g 1 q9 pv 8 1 qr r3 0 1 rb r4 0 1 qa r5 0 1 qg r6
0 1 qt r7 0 1 r1 r8 0 1 qz r9 0 1 qu ra 0 1 qo rc m 2 rd s0 0 1 qi s1 0 1 qp s2 0 1 qr s4 0 1 qg
s5 0 1 qd s7 0 1 s8 s9 0 1 qr sa 0 1 sb sd 2 1 or sg f 1 uo sw v 1 ts v4 w 2 v5 wa 1g 2 wb xs 0
1 y7 xt c 2 xu y8 2m 2 y9 10x 11 1 129 120 0 1 12f 13f 0 1 12j 2z0 0 1 2yz 3a8 11 1 8w0 3bb 0 1
8x3 3bh 0 1 8x9 3cs 0 1 3bw 3y0 5 1 3xs 5mo 0 1 tu 5mp 0 1 tw 5mq 0 1 u6 5mr 1 1 u9 5mt 0 1 ua
5mu 0 1 ui 5mv 0 1 v7 5mw 0 1 wuj 5mx 0 1 5my 5n4 16 1 3bk 5od 2 1 3ct 5rg 0 1 2p 5rh 0 1 6e 5ri
2 2 2q 5rl 0 1 2t 5rm 0 1 d9 5rn 7 1 2v 5rw 0 1 33 5rx 0 1 f7 5ry 0 1 34 5rz 0 1 36 5s0 1 1 38
5s2 0 1 3b 5s3 0 1 2p 5s4 1 1 gg 5s6 0 1 5qa 5s7 0 1 2q 5s8 1 1 2s 5sa 0 1 gp 5sb 1 1 gr 5sd 0 1
2v 5sf 0 1 2z 5sg 0 1 31 5sh 0 1 97 5si 0 1 33 5sj 0 1 gk 5sk 1 1 5qu 5sm 0 1 34 5sn 1 1 38 5sp
0 1 5r1 5sq 0 1 hb 5sr 0 1 3a 5ss 0 1 5r9 5st 2 1 qa 5sw 1 1 qu 5sy 0 1 2x 5sz 0 1 36 5t0 1 1 39
5t2 1 1 qa 5t4 0 1 qp 5t5 1 1 qu 5tk 0 1 u5 5uj 0 1 gi 5uk 0 1 2r 5ul 0 1 gl 5um 0 1 6o 5un 0 1
gs 5uo 0 1 2u 5up 0 1 gv 5uq 0 1 gx 5ur 0 1 h1 5us 2 1 h4 5uv 0 1 5tn 5uw 0 1 il 5ux 0 1 h9 5uy
0 1 5tx 5uz 0 1 in 5v0 0 1 hd 5v1 0 1 hc 5v2 3 1 he 5v6 0 1 hk 5v7 1 1 hu 5v9 0 1 bv 5va 1 1 i1
5vc 0 1 5r0 5vd 1 1 i3 5vf 0 1 3e 5vg 2 1 i8 5vj 0 1 qg 5xc 44 2 5xd 61n 0 1 601 61q 0 1 67 61s
2m 2 61t 64o 7 1 64g 654 5 1 64w 65k 7 1 65c 660 7 1 65s 66g 5 1 668 66x 6 2 66p 67c 7 1 674 67l
0 1 q4 67n 0 1 q5 67p 0 1 q6 67r 0 1 q7 67t 0 1 r0 67v 0 1 r1 67x 0 1 r2 69k 1 1 69c 69m 0 1 67k
69n 0 1 q4 69q 0 1 qh 6a0 0 1 67m 6a1 0 1 q5 6a2 0 1 67o 6a3 0 1 q6 6ab 0 1 pc 6ag 1 1 6a8 6ai 0
1 67q 6aj 0 1 q7 6ar 0 1 q8 6aw 1 1 6ao 6ay 0 1 67u 6az 0 1 r1 6b0 0 1 6at 6b3 0 1 2o 6bc 0 1
67s 6bd 0 1 r0 6be 0 1 67w 6bf 0 1 r2 6bk 0 1 w 6bl 0 1 w 6bm 0 1 w 6bn 0 1 w 6bo 0 1 w 6bp 0 1
w 6bq 0 1 w 6br 0 1 w 6bs 0 1 w 6bt 0 1 w 6bu 0 1 w 6c1 0 1 6c0 6cv 0 1 w 6e7 0 1 w 6eo 0 1 1c
6ep 0 1 2x 6es 5 1 1g 6ey 0 1 17 6ez 0 1 6qa 6f0 0 1 1p 6f1 1 1 14 6f3 0 1 32 6f4 9 1 1c 6fe 0 1
17 6ff 0 1 6qa 6fg 0 1 1p 6fh 1 1 14 6fk 0 1 2p 6fl 0 1 2t 6fm 0 1 33 6fn 0 1 3c 6fo 0 1 gp 6fp
0 1 2w 6fq 3 1 2z 6fu 0 1 34 6fv 1 1 37 6fx 0 1 3b 6fy 1 1 3d 6iq 0 1 2r 6iv 0 1 gr 6iy 1 1 2v
6j0 0 1 2w 6j1 0 1 2w 6j2 0 1 2w 6j3 0 1 87 6j4 0 1 2x 6j5 0 1 2x 6j6 0 1 30 6j7 2 2 30 6jd 2 1
34 6jg 0 1 36 6jh 0 1 36 6jo 0 1 3e 6jq 0 1 qx 6js 0 1 3e 6ju 0 1 2z 6jv 0 1 6d 6jw 1 1 2q 6jz 0
1 2t 6k0 1 1 2t 6k2 0 1 6ku 6k3 0 1 31 6k4 0 1 33 6k5 3 1 15c 6k9 0 1 2x 6kc 0 1 qo 6kd 0 1 qb
6ke 0 1 qb 6kf 0 1 qo 6kg 0 1 6q9 6kl 0 1 2s 6km 1 1 2s 6ko 1 1 2x 6lc 0 1 2x 6lg 0 1 3a 6ll 0 1
3c 6lo 0 1 30 6lp 1 1 2r 6lr 0 1 31 6ls 0 1 2x 6lw 0 1 3a 6m1 0 1 3c 6m4 0 1 30 6m5 1 1 2r 6m7 0
1 31 6mb 0 1 6mc 6y1 1 1 9hk 76o 8 1 1d 792 p 1 2p 79s p 1 2p 7ai 0 1 1c 8ow 1b 1 8q8 8rk 0 1
8rl 8rm 0 1 h7 8rn 0 1 5tp 8ro 0 1 hp 8rr 4 2 8rs 8rx 0 1 gh 8ry 0 1 hd 8rz 0 1 gg 8s0 0 1 gi
8s2 0 1 8s3 8s5 0 1 8s6 8sc 0 1 2y 8sd 0 1 3a 8se 1 1 fz 8sg 2q 2 8sh 8vf 2 2 8vg 8vm 0 1 8vn
8z3 0 1 8yp 97j 0 1 lal 99v 0 1 vj3 9a8 0 1 feo 9a9 0 1 ffs 9aa 0 1 fg6 9ab 0 1 fgf 9ac 0 1 fh5
9ad 0 1 fid 9ae 0 1 fik 9af 0 1 fj4 9ag 0 1 fju 9ah 0 1 g1r 9ai 0 1 g2t 9aj 0 1 g2z 9ak 0 1 g3m
9al 0 1 g46 9am 0 1 g4r 9an 0 1 g68 9ao 0 1 g6t 9ap 0 1 g74 9aq 0 1 gbf 9ar 0 1 ge1 9as 0 1 get
9at 0 1 gey 9au 0 1 gfs 9av 0 1 gg1 9aw 0 1 ggs 9ax 0 1 gh5 9ay 0 1 ghu 9az 0 1 gja 9b0 0 1 gjs
9b1 0 1 gkj 9b2 0 1 h5j 9b3 0 1 h7j 9b4 0 1 hkb 9b5 0 1 hky 9b6 0 1 hl6 9b7 0 1 hlh 9b8 0 1 hlz
9b9 0 1 ho3 9ba 0 1 i1c 9bb 0 1 i2o 9bc 0 1 i60 9bd 0 1 i6n 9be 0 1 i76 9bf 0 1 i7s 9bg 0 1 i9a
9bh 0 1 i9d 9bi 0 1 ijf 9bj 0 1 ijp 9bk 0 1 ik1 9bl 0 1 ike 9bm 0 1 inm 9bn 0 1 inu 9bo 0 1 inz
9bp 0 1 ir8 9bq 0 1 iri 9br 0 1 irv 9bs 0 1 is3 9bt 0 1 its 9bu 0 1 iu9 9bv 0 1 iur 9bw 0 1 iwz
9bx 0 1 jd4 9by 0 1 jee 9bz 0 1 jez 9c0 0 1 jzj 9c1 0 1 jzo 9c2 0 1 k1z 9c3 0 1 k2f 9c4 0 1 k2s
9c5 0 1 k3d 9c6 0 1 k4g 9c7 0 1 k4l 9c8 0 1 kc0 9c9 0 1 kco 9ca 0 1 kdk 9cb 0 1 l5s 9cc 0 1 l7m
9cd 0 1 l89 9ce 0 1 l9v 9cf 0 1 laj 9cg 0 1 las 9ch 0 1 laz 9ci 0 1 lcf 9cj 0 1 lck 9ck 0 1 ldg
9cl 0 1 m7f 9cm 0 1 mju 9cn 0 1 mk6 9co 0 1 mkb 9cp 0 1 mkf 9cq 0 1 mkn 9cr 0 1 ml5 9cs 0 1 ml7
9ct 0 1 mng 9cu 0 1 mtg 9cv 0 1 mtl 9cw 0 1 n30 9cx 0 1 n3a 9cy 0 1 n4o 9cz 0 1 n4v 9d0 0 1 n54
9d1 0 1 n5c 9d2 0 1 n7v 9d3 0 1 n82 9d4 0 1 nee 9d5 0 1 nel 9d6 0 1 nfy 9d7 0 1 ngf 9d8 0 1 nhq
9d9 0 1 nob 9da 0 1 noi 9db 0 1 noz 9dc 0 1 ny2 9dd 0 1 o1k 9de 0 1 o1q 9df 0 1 o6s 9dg 0 1 o97
9dh 0 1 oah 9di 0 1 okz 9dj 0 1 ooo 9dk 0 1 p4m 9dl 0 1 p5d 9dm 0 1 p6y 9dn 0 1 p8d 9do 0 1 pa9
9dp 0 1 pak 9dq 0 1 paq 9dr 0 1 pbn 9ds 0 1 pdr 9dt 0 1 pe1 9du 0 1 pnn 9dv 0 1 pnu 9dw 0 1 po3
9dx 0 1 poc 9dy 0 1 pos 9dz 0 1 pp7 9e0 0 1 ppb 9e1 0 1 pri 9e2 0 1 prm 9e3 0 1 prs 9e4 0 1 qj1
9e5 0 1 qjv 9e6 0 1 qww 9e7 0 1 qx8 9e8 0 1 qxv 9e9 0 1 r5q 9ea 0 1 r63 9eb 0 1 r82 9ec 0 1 r9c
9ed 0 1 rp3 9ee 0 1 rpi 9ef 0 1 rpx 9eg 0 1 rqw 9eh 0 1 rrx 9ei 0 1 rxg 9ej 0 1 rxs 9ek 0 1 rzn
9el 0 1 s6j 9em 0 1 s7e 9en 0 1 sd7 9eo 0 1 sds 9ep 0 1 sdx 9eq 0 1 sk1 9er 0 1 sp5 9es 0 1 ssm
9et 0 1 sss 9eu 0 1 ssx 9ev 0 1 tiv 9ew 0 1 tj4 9ex 0 1 tng 9ey 0 1 trq 9ez 0 1 trt 9f0 0 1 tt4
9f1 0 1 tw1 9f2 0 1 twe 9f3 0 1 twi 9f4 0 1 twp 9f5 0 1 tzf 9f6 0 1 u0d 9f7 0 1 u0j 9f8 0 1 u0x
9f9 0 1 u5k 9fa 0 1 u6z 9fb 0 1 u73 9fc 0 1 uc6 9fd 0 1 uc9 9fe 0 1 ucs 9ff 0 1 ujs 9fg 0 1 ul4
9fh 0 1 ulb 9fi 0 1 un9 9fj 0 1 unj 9fk 0 1 unm 9fl 0 1 unw 9fm 0 1 uoq 9fn 0 1 uzp 9fo 0 1 vat
9fp 0 1 vb3 9fq 0 1 vc5 9fr 0 1 vcr 9fs 0 1 vcz 9ft 0 1 vd9 9fu 0 1 vdd 9fv 0 1 veh 9fw 0 1 vel
9fx 0 1 vf2 9fy 0 1 vf7 9fz 0 1 vfk 9g0 0 1 vgb 9g1 0 1 vgq 9g2 0 1 vgy 9g3 0 1 vil 9g4 0 1 vj0
9g5 0 1 vj4 9hc 0 1 w 9he 0 1 1a 9iu 0 1 9hu 9iw 0 1 gg1 9ix 1 1 gg4 9pt 1 1 3cw 9pv 0 1 3hm 9pw
0 1 3cy 9px 1 1 3ho 9pz 2 1 3cz 9q2 5 1 3hs 9q8 0 1 3dm 9q9 2 1 3d2 9qc 0 1 3dt 9qd 9 1 3d5 9qn
k 1 3fl 9r9 1 1 3dg 9rb 1 1 3if 9rd 0 1 3ik 9re 0 1 3im 9rf 0 1 3ir 9rg 0 1 3iv 9rh 0 1 3ix 9ri
0 1 3do 9rj 0 1 3j1 9rk 0 1 3j3 9rl 1 1 3dp 9rn 0 1 3ds 9ro 1 1 3du 9rq 0 1 3dz 9rr 0 1 3e1 9rs
4 1 3e3 9rx 0 1 3ea 9ry 0 1 3ee 9rz 0 1 3eo 9s0 0 1 3ev 9s1 0 1 3f0 9s2 1 1 3jl 9s4 2 1 3fb 9s7
1 1 3gk 9s9 0 1 3go 9sa 1 1 3gx 9sc 0 1 3h0 9sd 0 1 3ha 9se 0 1 3hd 9si 0 1 feo 9sj 0 1 fik 9sk
0 1 fex 9sl 0 1 h5n 9sm 0 1 fey 9sn 0 1 ffx 9so 0 1 fez 9sp 0 1 n5e 9sq 0 1 fh5 9sr 0 1 ffd 9ss
0 1 fep 9st 0 1 hm1 9su 0 1 h80 9sv 0 1 fju 9xg 0 1 gun 9xh 0 1 inw 9xi 0 1 k1z 9xj 0 1 oen 9y8
0 1 3cw 9y9 1 1 3cy 9yb 2 1 3d1 9ye 0 1 3d5 9yf 1 1 3d7 9yh 4 1 3da 9ym 0 1 xz4 9yn 0 1 yvs 9yo
0 1 zc4 9yp 0 1 108s 9yq 0 1 10p4 9yr 0 1 115g 9ys 0 1 1224 9yt 0 1 12ys 9yu 0 1 13f4 9yv 0 1
14bs 9yw 0 1 14s4 9yx 0 1 158g 9yy 0 1 15os 9yz 0 1 1654 9z2 0 1 138w 9z4 0 1 feo 9z5 0 1 fik
9z6 0 1 fex 9z7 0 1 h5n 9z8 0 1 fis 9z9 0 1 g31 9za 0 1 fer 9zb 0 1 g2z 9zc 0 1 fh9 9zd 0 1 gg1
9ze 0 1 kco 9zf 0 1 m7f 9zg 0 1 ldg 9zh 0 1 kdk 9zi 0 1 ssx 9zj 0 1 h7j 9zk 0 1 k4l 9zl 0 1 kkq
9zm 0 1 kcp 9zn 0 1 ny6 9zo 0 1 glp 9zp 0 1 mm1 9zq 0 1 rs1 9zr 0 1 nz1 9zs 0 1 gc4 9zt 0 1 o2g
9zu 0 1 n5j 9zv 0 1 ho3 9zw 0 1 six 9zx 0 1 g16 9zy 0 1 ghc 9zz 0 1 lig a00 0 1 u11 a01 0 1 fm9
a02 0 1 g49 a03 0 1 l7n a04 0 1 fey a05 0 1 ffx a06 0 1 fez a07 0 1 ijq a08 0 1 gkz a09 0 1 gfv
a0a 0 1 i3b a0b 0 1 i1y a0c 0 1 nhf a0d 0 1 flt a0e 0 1 rt3 a0f 0 1 ggk a0g 0 1 hlo a1c 0 1 9lu
a1d 0 1 9lw a1e 0 1 9ly a1f 0 1 9m0 a1g 1 1 9m2 a1i 0 1 9m5 a1j 0 1 9m7 a1k 0 1 9m9 a1l 0 1 9mb
a1m 0 1 9md a1n 0 1 9mf a1o 0 1 9mh a1p 0 1 9mj a1q 0 1 9ml a1r 0 1 9mn a1s 0 1 9mp a1t 0 1 9ms
a1u 0 1 9mu a1v 0 1 9mw a1w 5 1 9my a22 0 1 9n6 a23 0 1 9n9 a24 0 1 9nc a25 0 1 9nf a26 4 1 9ni
a2b 0 1 9no a2c 0 1 9nq a2d 5 1 9ns a2j 3 1 9nz wu8 18 2 wu9 ww0 q 2 ww1 wws 0 1 ui wwt 0 1 uk
x0i c 2 x0j x0y 1o 2 x0z x2o 0 1 x2n x2x 2 2 x2y x31 0 1 5tl x32 8 2 x33 x3f 0 1 x3g x3h 0 1 h1
x3k 2 2 x3l x3q i 2 x3r x4a 0 1 h2 x4b 0 1 gs x4c 0 1 gx x4d 0 1 h8 x4e 0 1 h6 x4g 0 1 im x4h 0
1 hz x4i 0 1 il x4j 0 1 xub x4k e 2 x4l x50 0 1 x3o x51 0 1 hu x52 0 1 5u6 x53 2 2 x54 x57 0 1
h0 x58 e 2 x59 x5o 0 1 bf x69 0 1 37 x6a 0 1 2r x6b 0 1 2u x6c 0 1 35 x6d 0 1 x6e x6g 0 1 87 x6h
0 1 9f xuk 0 1 x0n xul 0 1 xtj xum 0 1 h7 xun 0 1 xua xux 0 1 i5 xv0 0 1 xu3 xv4 27 1 3vk 1d6o 0
1 rpk 1d6p 0 1 kc4 1d6q 0 1 s7e 1d6r 0 1 rt4 1d6s 0 1 lw1 1d6t 0 1 fg2 1d6u 0 1 gkl 1d6v 0 1 vj0
1d6w 0 1 vj0 1d6x 0 1 hn5 1d6y 0 1 ssx 1d6z 0 1 gw7 1d70 0 1 hmw 1d71 0 1 jcm 1d72 0 1 ne1 1d73
0 1 p6t 1d74 0 1 qin 1d75 0 1 qt6 1d76 0 1 r20 1d77 0 1 sjz 1d78 0 1 kxu 1d79 0 1 ljv 1d7a 0 1
mah 1d7b 0 1 mvy 1d7c 0 1 q4d 1d7d 0 1 sq2 1d7e 0 1 uep 1d7f 0 1 fia 1d7g 0 1 ghh 1d7h 0 1 l50
1d7i 0 1 mjf 1d7j 0 1 qi5 1d7k 0 1 v8e 1d7l 0 1 ifk 1d7m 0 1 m3v 1d7n 0 1 qfh 1d7o 0 1 r50 1d7p
0 1 jih 1d7q 0 1 pnc 1d7r 0 1 qvz 1d7s 0 1 iq2 1d7t 0 1 kd3 1d7u 0 1 lm2 1d7v 0 1 mpo 1d7w 0 1
slq 1d7x 0 1 fpi 1d7y 0 1 g53 1d7z 0 1 gda 1d80 0 1 jwk 1d81 0 1 l3n 1d82 0 1 mj4 1d83 0 1 nhj
1d84 0 1 pa9 1d85 0 1 qh2 1d86 0 1 qjg 1d87 0 1 s1b 1d88 0 1 tv6 1d89 0 1 upb 1d8a 0 1 v7e 1d8b
0 1 nt8 1d8c 0 1 nzz 1d8d 0 1 otc 1d8e 0 1 q15 1d8f 0 1 t1g 1d8g 0 1 vb3 1d8h 0 1 rfa 1d8i 0 1
hjz 1d8j 0 1 iro 1d8k 0 1 okg 1d8l 0 1 pdq 1d8m 0 1 mle 1d8n 0 1 nuy 1d8o 0 1 rsy 1d8p 0 1 ttj
1d8q 0 1 hjs 1d8r 0 1 i8y 1d8s 0 1 kyb 1d8t 0 1 lp6 1d8u 0 1 lxr 1d8v 0 1 oq7 1d8w 0 1 oxj 1d8x
0 1 tor 1d8y 0 1 gcy 1d8z 0 1 pe3 1d90 0 1 g64 1d91 0 1 g5o 1d92 0 1 o4c 1d93 0 1 ou6 1d94 0 1
q29 1d95 0 1 tpx 1d96 0 1 rk0 1d97 0 1 jin 1d98 0 1 kxu 1d99 0 1 rge 1d9a 0 1 fg9 1d9b 0 1 i5j
1d9c 0 1 iz6 1d9d 0 1 mtj 1d9e 0 1 n74 1d9f 0 1 gev 1d9g 0 1 nwb 1d9h 0 1 fr3 1d9i 0 1 iw9 1d9j
0 1 ff1 1d9k 0 1 lho 1d9l 0 1 k1k 1d9m 0 1 opu 1d9n 0 1 gjn 1d9o 0 1 hge 1d9p 0 1 ni9 1d9q 0 1
q4p 1d9r 0 1 re2 1d9s 0 1 la2 1d9t 0 1 sds 1d9u 0 1 lfs 1d9v 0 1 jjy 1d9w 0 1 put 1d9x 0 1 jog
1d9y 0 1 n6t 1d9z 0 1 fji 1da0 0 1 g2x 1da1 0 1 g5l 1da2 0 1 kn5 1da3 0 1 oo7 1da4 0 1 prj 1da5
0 1 rf6 1da6 0 1 ssv 1da7 0 1 gdx 1da8 0 1 gn6 1da9 0 1 ho3 1daa 0 1 ir0 1dab 0 1 k3p 1dac 0 1
m4e 1dad 0 1 nxm 1dae 0 1 tkd 1daf 0 1 ui2 1dag 0 1 vbr 1dah 0 1 vda 1dai 0 1 gbf 1daj 0 1 kau
1dak 0 1 l87 1dal 0 1 sbm 1dam 0 1 ino 1dan 0 1 j9s 1dao 0 1 jcw 1dap 0 1 jve 1daq 0 1 lyb 1dar
0 1 mdl 1das 0 1 n0p 1dat 0 1 o22 1dau 0 1 ovo 1dav 0 1 pdb 1daw 0 1 s9y 1dax 0 1 q9a 1day 0 1
sgz 1daz 0 1 t3e 1db0 0 1 g7r 1db1 0 1 gbn 1db2 0 1 gql 1db3 0 1 ma0 1db4 0 1 r0i 1db5 0 1 re2
1db6 0 1 iq1 1db7 0 1 iyd 1db8 0 1 jnf 1db9 0 1 l9q 1dba 0 1 oji 1dbb 0 1 mt1 1dbc 0 1 fl0 1dbd
0 1 h6h 1dbe 0 1 i5j 1dbf 0 1 iii 1dbg 0 1 izg 1dbh 0 1 muq 1dbi 0 1 mzt 1dbj 0 1 p7e 1dbk 0 1
pc6 1dbl 0 1 svo 1dbm 0 1 tti 1dbn 0 1 tvs 1dbo 0 1 u1k 1dbp 0 1 fpn 1dbq 0 1 o1a 1dbr 0 1 ss4
1dbs 0 1 trs 1dbt 0 1 j4x 1dbu 0 1 fie 1dbv 0 1 fyy 1dbw 0 1 i5q 1dbx 0 1 i7z 1dby 0 1 k2h 1dbz
0 1 kxu 1dc0 0 1 mha 1dc1 0 1 ncy 1dc2 0 1 q9o 1dc3 0 1 sjg 1dc4 0 1 vil 1dc5 0 1 k94 1dc6 0 1
tny 1dc7 0 1 gax 1dc8 0 1 kfv 1dc9 0 1 kj7 1dca 0 1 lkx 1dcb 0 1 luk 1dcc 0 1 mx5 1dcd 0 1 n6h
1dce 0 1 nsb 1dcf 0 1 opc 1dcg 0 1 u3i 1dch 0 1 g31 1dci 0 1 je6 1dcj 0 1 tq0 1dck 0 1 fu3 1dcl
0 1 ie1 1dcm 0 1 lpm 1dcn 0 1 sa2 1dco 0 1 ivf 1dcp 0 1 j7o 1dcq 0 1 kk7 1dcr 0 1 mtj 1dcs 0 1
tqe 1dct 0 1 g89 1dcu 0 1 glr 1dcv 0 1 i91 1dcw 0 1 k5v 1dcx 0 1 kem 1dcy 0 1 ko8 1dcz 0 1 lid
1dd0 0 1 mx2 1dd1 0 1 naa 1dd2 0 1 p6h 1dd3 0 1 r0v 1dd4 0 1 r1d 1dd5 0 1 sss 1dd6 0 1 tsy 1dd7
0 1 gfz 1dd8 0 1 lve 1dd9 0 1 gm5 1dda 0 1 mhc 1ddb 0 1 n14 1ddc 0 1 qgq 1ddd 0 1 tr7 1dde 0 1
uvr 1ddf 0 1 vbz 1ddg 0 1 kgn 1ddh 0 1 lor 1ddi 0 1 pns 1ddj 0 1 o97 1ddk 0 1 obk 1ddl 0 1 olu
1ddm 0 1 mo0 1ddn 0 1 m8p 1ddo 0 1 riw 1ddp 0 1 fk0 1ddq 0 1 px2 1ddr 0 1 g8q 1dds 0 1 g7b 1ddt
0 1 ip2 1ddu 0 1 jir 1ddv 0 1 onq 1ddw 0 1 i2t 1ddx 0 1 ljy 1ddy 0 1 kac 1ddz 0 1 saj 1de0 0 1
qx8 1de1 0 1 tot 1de2 0 1 r63 1de3 0 1 iqb 1de4 0 1 g1s 1de5 0 1 gxs 1de8 0 1 hga 1dea 0 1 k8k
1ded 0 1 g66 1dee 0 1 mqy 1def 0 1 ngq 1deg 0 1 ny4 1deh 0 1 nz2 1dei 0 1 nz9 1dej 0 1 o0f 1dek
0 1 tw6 1del 0 1 on2 1dem 0 1 p8d 1deo 0 1 qhe 1deq 0 1 rg8 1det 0 1 shk 1deu 0 1 sn1 1dey 0 1
u7j 1dez 0 1 u7w 1df0 0 1 u94 1df1 0 1 v5g 1df2 0 1 sm6 1df3 0 1 trr 1df4 0 1 fqm 1df5 0 1 fzb
1df6 0 1 g25 1df7 0 1 gcp 1df8 0 1 gdg 1df9 0 1 ggh 1dfa 0 1 gwt 1dfb 0 1 gzq 1dfc 0 1 h2g 1dfd
0 1 hfk 1dfe 0 1 hig 1dff 0 1 i90 1dfg 0 1 i9a 1dfh 0 1 j2s 1dfi 0 1 j8o 1dfj 0 1 j9q 1dfk 0 1
jci 1dfl 0 1 k0f 1dfm 0 1 k4i 1dfn 0 1 k9d 1dfo 0 1 kn9 1dfp 0 1 lmf 1dfq 0 1 lqy 1dfr 0 1 lya
1dfs 0 1 mem 1dft 0 1 mjv 1dfu 0 1 mxu 1dfv 0 1 ntd 1dfw 0 1 ny6 1dfx 0 1 nyh 1dfy 0 1 nyg 1dfz
0 1 nyo 1dg0 0 1 nyu 1dg1 0 1 nz1 1dg2 1 1 o0d 1dg4 0 1 o5c 1dg5 0 1 o75 1dg6 0 1 og0 1dg7 0 1
ovo 1dg8 0 1 ow9 1dg9 0 1 oxt 1dga 0 1 p6a 1dgb 0 1 pad 1dgc 0 1 pnx 1dgd 0 1 prt 1dge 0 1 prt
1dgf 0 1 q53 1dgg 0 1 r2o 1dgh 0 1 r6e 1dgi 0 1 rgh 1dgj 0 1 ri1 1dgk 0 1 rtf 1dgl 0 1 ruw 1dgm
0 1 sdy 1dgn 0 1 shk 1dgo 0 1 tsz 1dgp 0 1 u0v 1dgq 0 1 u2j 1dgr 0 1 j1x 1dgs 0 1 36cu 1dgt 0 1
pp4 1dgw 0 1 ffq 1dgx 0 1 g51 1dgy 0 1 g2w 1dgz 0 1 fpc 1dh0 0 1 g1x 1dh1 0 1 g3k 1dh2 0 1 gcn
1dh3 0 1 ge2 1dh4 0 1 gwt 1dh5 0 1 gut 1dh6 0 1 gwp 1dh7 0 1 gyq 1dh8 0 1 hga 1dh9 0 1 hir 1dha
0 1 hms 1dhb 0 1 hn8 1dhc 0 1 huq 1dhd 0 1 i08 1dhe 0 1 iqa 1dhf 0 1 iqh 1dhg 0 1 iuh 1dhh 0 1
iwd 1dhi 0 1 j4o 1dhj 0 1 j7y 1dhk 0 1 j60 1dhl 0 1 j9q 1dhm 0 1 j8g 1dhn 0 1 jci 1dho 0 1 jec
1dhp 0 1 jpg 1dhq 0 1 jrw 1dhr 0 1 jte 1dhs 0 1 k0m 1dht 0 1 k8k 1dhu 0 1 kd3 1dhv 0 1 kd7 1dhw
0 1 keu 1dhx 0 1 l89 1dhy 0 1 la2 1dhz 0 1 lkx 1di0 0 1 lwb 1di1 0 1 lvv 1di2 0 1 lya 1di3 0 1
m5a 1di4 0 1 mem 1di5 0 1 nmv 1di6 0 1 mk5 1di7 0 1 mnj 1di8 0 1 mqy 1di9 0 1 n01 1dia 0 1 n46
1dib 0 1 n5n 1dic 0 1 nbx 1did 0 1 nbz 1die 0 1 ngq 1dif 0 1 nh7 1dig 0 1 nhw 1dih 0 1 nka 1dii
0 1 nk0 1dij 0 1 nv0 1dik 0 1 o8h 1dil 0 1 og0 1dim 0 1 ol7 1din 0 1 orf 1dio 0 1 ovo 1dip 0 1
p4u 1diq 0 1 pad 1dir 0 1 pxu 1dis 0 1 q27 1dit 0 1 qrd 1diu 0 1 r41 1div 0 1 r5y 1diw 0 1 r6e
1dix 0 1 ren 1diy 0 1 rg8 1diz 0 1 rez 1dj0 0 1 rgh 1dj1 0 1 rge 1dj2 0 1 rfx 1dj3 0 1 ri1 1dj4
0 1 rka 1dj5 0 1 ruw 1dj6 0 1 sag 1dj7 0 1 sj6 1dj8 0 1 srd 1dj9 0 1 sxi 1dja 0 1 tq4 1djb 0 1
tsz 1djc 0 1 tw6 1djd 0 1 tzv 1dje 0 1 u0v 1djf 0 1 u17 1djg 0 1 u2j 1djh 0 1 umq 1dji 0 1 vj0
1djj 0 1 313e 1djk 0 1 3138 1djl 0 1 33dh 1djm 0 1 brx 1djn 0 1 cns 1djo 0 1 cop 1djp 0 1 39e1
1djq 0 1 3bgw 1djr 0 1 3i6r 1djs 0 1 vgj 1djt 0 1 vim 1dls 0 1 15u 1dlt 0 1 15c 1dlu 1 1 15f
1dlw 2 1 15n 1dlz 0 1 160 1dm0 0 1 162 1dm1 0 1 17 1dn4 0 1 19t 1dn5 0 1 19t 1dn6 0 1 1a3 1dn7 0
1 1a3 1dn8 0 1 1a3 1dn9 0 1 1a3 1dna 0 1 1a6 1dnb 0 1 1a6 1dnc 0 1 1a6 1dnd 0 1 1a6 1dne 0 1 1a8
1dnf 0 1 1a8 1dng 0 1 1a8 1dnh 0 1 1a8 1dni 0 1 1a2 1dnj 0 1 1a2 1dnk 0 1 1a2 1dnl 0 1 1a2 1dnm
0 1 1a7 1dnn 0 1 1a7 1dno 0 1 1a7 1dnp 0 1 1a7 1dnq 0 1 1a1 1dnr 0 1 1a1 1dns 0 1 1a1 1dnt 0 1
1a1 1dnu 0 1 1b8 1dnv 0 1 1b8 1dnw 0 1 1b8 1dnx 0 1 1b8 1dny 0 1 1ba 1dnz 0 1 1ba 1do0 0 1 1ba
1do1 0 1 1ba 1do2 0 1 1ac 1do3 0 1 1ac 1do4 0 1 1ac 1do5 0 1 1ac 1do6 0 1 1ab 1do7 0 1 1ab 1do8
0 1 1ab 1do9 0 1 1ab 1doa 0 1 1ae 1dob 0 1 1ae 1doc 0 1 1ae 1dod 1 1 1ae 1dof 0 1 1af 1dog 0 1
1af 1doh 0 1 1af 1doi 0 1 1al 1doj 0 1 1al 1dok 0 1 1ak 1dol 0 1 1ak 1dom 0 1 1am 1don 0 1 1am
1doo 0 1 1ag 1dop 0 1 1ag 1doq 0 1 1aw 1dor 0 1 1aw 1dos 0 1 1ap 1dot 0 1 1ap 1dou 0 1 1bd 1dov
0 1 1bd 1dow 0 1 1bd 1dox 0 1 1bd 1doy 0 1 1bj 1doz 0 1 1bj 1dp0 0 1 1bj 1dp1 0 1 1bj 1dp2 0 1
1bn 1dp3 0 1 1bn 1dp4 0 1 1bn 1dp5 0 1 1bn 1dp6 0 1 1bl 1dp7 0 1 1bl 1dp8 0 1 1bl 1dp9 0 1 1bl
1dpa 0 1 1bu 1dpb 1 1 1bu 1dpd 0 1 1bv 1dpe 0 1 1bv 1dpf 0 1 1bv 1dpg 0 1 1c0 1dph 1 1 1c0 1dpj
0 1 1c1 1dpk 0 1 1c1 1dpl 0 1 1c1 1dpm 0 1 1by 1dpn 0 1 1by 1dpo 0 1 1by 1dpp 0 1 1by 1dpq 0 1
1ci 1dpr 1 1 1ci 1dpt 0 1 1cj 1dqr 0 1 1bh 1dqs 0 1 1bh 1dqt 0 1 1bh 1dqu 0 1 1bh 1dqv 0 1 1c7
1dqw 0 1 1c7 1dqx 0 1 1c6 1dqy 0 1 1c6 1dqz 0 1 1c8 1dr0 0 1 1c8 1dr2 0 1 1cb 1dr3 0 1 1cb 1dr4
0 1 1c5 1dr5 0 1 1c5 1dr6 0 1 1c9 1dr7 0 1 1c9 1dr8 0 1 1cg 1dr9 0 1 1cg 1dra 0 1 1cg 1drb 0 1
1cg 1drc 0 1 18p 1drd 0 1 18p 1drw 0 1 1cc 1drx 0 1 1cc 1dry 0 1 1cc 1drz 0 1 1cc 1e6o 0 1 18
1e6p 0 1 9hd 1e6r 1 1 1m 1e6t 0 1 x 1e6u 0 1 1r 1e6v 1 1 9hy 1e7l 0 1 6c4 1e7m 0 1 6c3 1e7n 0 1
2n 1e7o 0 1 2n 1e7p 1 1 14 1e7r 0 1 3f 1e7s 0 1 3h 1e7t 1 1 9hw 1e7v 1 1 9hs 1e7x 1 1 9hm 1e7z 1
1 9hk 1e81 3 1 9ho 1e87 0 1 2j 1e88 0 1 2l 1e8d 0 1 2n 1e8e 0 1 2n 1e8f 0 1 2n 1e8g 0 1 18 1e8h
0 1 9hd 1e8k 0 1 1n 1e8l 0 1 1m 1e8m 0 1 1r 1e8n 0 1 x 1e8o 0 1 6c4 1e8p 1 1 14 1e8r 0 1 3f 1e8s
0 1 3h 1e8t 1 1 9hw 1e8v 0 1 z 1e8w 0 1 12 1e8x 1 1 16 1e8z 0 1 19 1e90 0 1 1o 1e91 0 1 1q 1e92
0 1 1p 1e94 0 1 2k 1e95 1 1 10 1e97 0 1 1s 1e9s 1 1 17l 1e9u 1 1 17m 1e9w 1 1 17n 1e9y 1 1 17o
1ea0 1 1 17p 1ea2 0 1 17q 1ea3 0 1 17q 1ea4 1 1 17q 1ea6 1 1 17r 1ea8 0 1 17s 1ea9 0 1 17s 1eaa
1 1 17s 1eac 1 1 17t 1eae 0 1 17u 1eaf 0 1 17u 1eag 1 1 17u 1eai 0 1 17v 1eaj 0 1 17v 1eak 1 1
17v 1eam 0 1 17w 1ean 0 1 17w 1eao 1 1 17w 1eaq 0 1 17x 1ear 0 1 17x 1eas 1 1 17x 1eau 0 1 17y
1eav 0 1 17y 1eaw 1 1 17y 1eay 1 1 17z 1eb0 1 1 180 1eb2 1 1 181 1eb4 1 1 182 1eb6 0 1 183 1eb7
0 1 183 1eb8 1 1 183 1eba 0 1 184 1ebb 0 1 184 1ebc 1 1 184 1ebe 0 1 185 1ebf 0 1 185 1ebg 1 1
185 1ebi 0 1 186 1ebj 0 1 186 1ebk 1 1 186 1ebm 0 1 187 1ebn 0 1 187 1ebo 1 1 187 1ebq 0 1 188
1ebr 0 1 188 1ebs 1 1 188 1ebu 0 1 189 1ebv 0 1 189 1ebw 1 1 189 1eby 0 1 18a 1ebz 0 1 18a 1ec0
0 1 18a 1ec1 0 1 18h 1ec2 0 1 18h 1ec3 0 1 18h 1ec4 1 1 18h 1ec6 0 1 18i 1ec7 0 1 18i 1ec8 1 1
18i 1eca 0 1 18j 1ecb 0 1 18j 1ecc 1 1 18j 1ece 0 1 18k 1ecf 0 1 18k 1ecg 1 1 18k 1eci 0 1 18l
1ecj 0 1 18l 1eck 1 1 18l 1ecm 0 1 18m 1ecn 0 1 18m 1eco 1 1 18m 1ecq 0 1 18n 1ecr 0 1 18n 1ecs
1 1 18n 1ecu 1 1 18o 1ecw 1 1 18p 1ecy 0 1 18q 1ecz 0 1 18q 1ed0 0 1 18q 1edd v 1 x 1ee9 p 1 2p
1eez z 1 2j 1efz 1 1 879 1eg1 0 1 1a 1eg2 1 1 9ho 1eg4 0 1 9hd 1eg5 0 1 9ob 1eg6 0 1 9o2 1eg7 0
1 9lt 1eg8 0 1 9lv 1eg9 0 1 9lx 1ega 0 1 9lz 1egb 0 1 9m1 1egc 0 1 9nn 1egd 0 1 9np 1ege 0 1 9nr
1egf 0 1 9mr 1egg 0 1 9oc 1egh 0 1 9lu 1egi 0 1 9lw 1egj 0 1 9ly 1egk 0 1 9m0 1egl 1 1 9m2 1egn
0 1 9m5 1ego 0 1 9m7 1egp 0 1 9m9 1egq 0 1 9mb 1egr 0 1 9md 1egs 0 1 9mf 1egt 0 1 9mh 1egu 0 1
9mj 1egv 0 1 9ml 1egw 0 1 9mn 1egx 0 1 9mp 1egy 0 1 9ms 1egz 0 1 9mu 1eh0 0 1 9mw 1eh1 5 1 9my
1eh7 0 1 9n6 1eh8 0 1 9n9 1eh9 0 1 9nc 1eha 0 1 9nf 1ehb 4 1 9ni 1ehg 0 1 9no 1ehh 0 1 9nq 1ehi
5 1 9ns 1eho 0 1 9nz 1ehp 0 1 9o3 1ehq 1 1 9ll 1eht 1 1 3cw 1ehv 0 1 3hm 1ehw 0 1 3cy 1ehx 1 1
3ho 1ehz 2 1 3cz 1ei2 5 1 3hs 1ei8 0 1 3dm 1ei9 2 1 3d2 1eic 0 1 3dt 1eid 9 1 3d5 1eiq 5 1 3fl
1eiy 5 1 3fr 1ej6 5 1 3fx 1eje 2 1 3g3 1ejk 1 1 4i 1ejm 0 1 4s 1ejo 0 1 4m 1ejp 0 1 4l 1ejq 0 1
6g9 1ejs 0 1 7b6 1ejt 3 1 6mo 1ejx 0 1 7fk 1ejy 0 1 7gr 1fcw 13 1 1fe0 1fhs z 1 1fiw 1fn4 a 1
1fo7 1fng e 1 1foj 1fnw 6 1 1foz 1fo4 1 1 1fp7 1g1t 1 1 k0 1g1v 0 1 6e 1g1w 0 1 ih 1g1x 0 1 gj
1g1z 0 1 ir 1g20 0 1 xuu 1g21 0 1 it 1g22 0 1 is 1g23 1 1 gm 1g25 0 1 5u9 1g26 0 1 go 1g27 0 1
gu 1g28 0 1 ix 1g29 0 1 h0 1g2a 0 1 gy 1g2b 0 1 gw 1g2c 0 1 ij 1g2d 0 1 87 1g2e 0 1 ik 1g2f 0 1
h3 1g2g 0 1 hw 1g2h 1 1 iy 1g2j 0 1 h8 1g2k 0 1 2mmc 1g2l 0 1 x3i 1g2m 0 1 ha 1g2n 0 1 2mmd 1g2o
0 1 i6 1g2p 0 1 2mme 1g2q 0 1 6w 1g2r 1 1 hi 1g2t 0 1 35 1g2u 0 1 hm 1g2v 0 1 2mmg 1g2w 1 1 hp
1g2y 0 1 hs 1g2z 0 1 iw 1g30 0 1 iu 1g31 0 1 xuv 1g32 0 1 iv 1g33 0 1 i0 1g34 0 1 8s1 1g36 0 1
i7 1g37 1 1 ip 1g39 0 1 ig 1g3a 2 1 cg 1g3d 0 1 2mmi 1g3e 0 1 2mn2 1g3f 0 1 hz 1h1c 1e 1 1h34
1h74 l 1 1h80 1jfk v 1 1jgg 20cg v 1 20dc 20f4 o 1 20fv 2j12 p 1 2p 2j1s 9 1 1c 2kg0 p 1 2p 2kgq
p 1 2p 2khg p 1 2p 2ki6 6 1 2p 2kie h 1 2x 2kiw p 1 2p 2kjm p 1 2p 2kkc 2 2 2p 2kkf 0 1 2s 2kki
0 1 2v 2kkl 1 1 2y 2kkp 3 1 32 2kku 7 1 37 2kl2 3 1 2p 2kl7 2 2 2u 2kla 5 1 2x 2klh a 1 34 2kls
p 1 2p 2kmi p 1 2p 2kn8 1 1 2p 2knb 3 1 2s 2knh 7 1 2y 2knq 6 1 37 2kny p 1 2p 2koo 1 1 2p 2kor
3 1 2s 2kow 4 1 2x 2kp2 0 1 33 2kp6 6 1 37 2kpe p 1 2p 2kq4 p 1 2p 2kqu p 1 2p 2krk p 1 2p 2ksa
p 1 2p 2kt0 p 1 2p 2ktq p 1 2p 2kug p 1 2p 2kv6 p 1 2p 2kvw p 1 2p 2kwm p 1 2p 2kxc p 1 2p 2ky2
p 1 2p 2kys 0 1 8h 2kyt 0 1 fr 2kyw g 1 q9 2kzd 0 1 qg 2kze 6 1 qr 2kzl 0 1 6pz 2kzm g 1 q9 2l03
0 1 qr 2l04 6 1 qr 2l0b 0 1 6pu 2l0c 0 1 qd 2l0d 0 1 qg 2l0e 0 1 qi 2l0f 0 1 qu 2l0g 0 1 qp 2l0h
0 1 qo 2l0i g 1 q9 2l0z 0 1 qg 2l10 6 1 qr 2l17 0 1 6pz 2l18 g 1 q9 2l1p 0 1 qr 2l1q 6 1 qr 2l1x
0 1 6pu 2l1y 0 1 qd 2l1z 0 1 qg 2l20 0 1 qi 2l21 0 1 qu 2l22 0 1 qp 2l23 0 1 qo 2l24 g 1 q9 2l2l
0 1 qg 2l2m 6 1 qr 2l2t 0 1 6pz 2l2u g 1 q9 2l3b 0 1 qr 2l3c 6 1 qr 2l3j 0 1 6pu 2l3k 0 1 qd
2l3l 0 1 qg 2l3m 0 1 qi 2l3n 0 1 qu 2l3o 0 1 qp 2l3p 0 1 qo 2l3q g 1 q9 2l47 0 1 qg 2l48 6 1 qr
2l4f 0 1 6pz 2l4g g 1 q9 2l4x 0 1 qr 2l4y 6 1 qr 2l55 0 1 6pu 2l56 0 1 qd 2l57 0 1 qg 2l58 0 1
qi 2l59 0 1 qu 2l5a 0 1 qp 2l5b 0 1 qo 2l5c g 1 q9 2l5t 0 1 qg 2l5u 6 1 qr 2l61 0 1 6pz 2l62 g 1
q9 2l6j 0 1 qr 2l6k 6 1 qr 2l6r 0 1 6pu 2l6s 0 1 qd 2l6t 0 1 qg 2l6u 0 1 qi 2l6v 0 1 qu 2l6w 0 1
qp 2l6x 0 1 qo 2l6y 0 1 rh 2l6z 0 1 rh 2l72 9 1 1c 2l7c 9 1 1c 2l7m 9 1 1c 2l7w 9 1 1c 2l86 9 1
1c 2muo 8 1 ts 2mux 2 1 u2 2mv0 a 1 u6 2mvb 0 1 uj 2mvc 1 1 ul 2mve 0 1 ww9 2mvf 0 1 yh 2mvg 0 1
uu 2mvh 0 1 uw 2mvi 0 1 yx 2mvj 0 1 xb 2mvk 0 1 y7 2mvl 8 1 ts 2mvu 1 1 u2 2mvw 1 1 u6 2mvy 0 1
u9 2mvz 5 1 ub 2mw5 1 1 ui 2mw7 0 1 wh 2mw8 0 1 uu 2mw9 0 1 ut 2mwa 0 1 v3 2mwb 0 1 x7 2mwc 0 1
wup 2mwd 0 1 xd 2olc x 1 2oma 2pkw 1 1 17r 2pky 0 1 17w 2pkz 0 1 17z 2pl1 0 1 18o 2pl2 0 1 182
2pl3 0 1 17x 2pl4 0 1 187 2pl5 0 1 18q 2pl6 3 1 18j 2pla 0 1 183 2plb 0 1 189 2plc 0 1 18h 2pld
0 1 185 2ple 0 1 18i 2plf 0 1 181 2plg 0 1 184 2plh 1 1 17u 2plj 0 1 17y 2plk 0 1 180 2pll 0 1
186 2plm 0 1 188 2pln 0 1 18a 2plo 0 1 19q 2plp 0 1 1bu 2plq 0 1 1b5 2plr 0 1 19r 2plt 0 1 17s
2plu 0 1 17w 2plw 0 1 18n 2plz 0 1 17x 2pm1 0 1 18q 2pm2 3 1 18j 2pm6 0 1 183 2pm7 0 1 189 2pm8
0 1 18h 2pm9 0 1 185 2pma 0 1 18i 2pmc 0 1 184 2pmd 1 1 17u 2pmf 0 1 17y 2pmh 0 1 186 2pmj 0 1
18a 2pmq 0 1 17w 2pmv 0 1 17x 2pmx 0 1 18q 2pmz 2 2 18k 2pn2 0 1 183 2pn3 0 1 189 2pn5 0 1 185
2pn6 0 1 18i 2pn8 0 1 184 2pnb 0 1 17y 2pnd 0 1 186 2pnf 0 1 18a 2pnh 0 1 1bu 2pnj 0 1 19r 2pnl
0 1 17s 2pnm 0 1 17w 2pno 0 1 18n 2pnr 0 1 17x 2pns 0 1 187 2pnt 0 1 18q 2pnu 2 2 18j 2pnx 0 1
18m 2pny 0 1 183 2pnz 0 1 189 2po0 0 1 18h 2po1 0 1 185 2po2 0 1 18i 2po4 0 1 184 2po5 1 1 17u
2po7 0 1 17y 2po9 0 1 186 2poa 0 1 188 2pob 0 1 18a 2poc 0 1 19q 2poe 0 1 1b5 2pog 1 1 17r 2poi
0 1 17w 2poj 0 1 17z 2pok 1 1 18n 2pom 0 1 182 2pon 0 1 17x 2poo 0 1 187 2pop 0 1 18q 2por 2 1
18k 2pou 0 1 183 2pov 0 1 189 2pow 0 1 18h 2pox 0 1 185 2poy 0 1 18i 2poz 0 1 181 2pp0 0 1 184
2pp1 1 1 17u 2pp3 0 1 17y 2pp4 0 1 180 2pp5 0 1 186 2pp6 0 1 188 2pp7 0 1 18a 2ppd 0 1 17s 2ppe
0 1 17w 2ppf 0 1 17z 2pph 0 1 18o 2ppi 0 1 182 2ppj 0 1 17x 2ppk 0 1 187 2ppl 0 1 18q 2ppn 2 1
18k 2ppq 0 1 183 2ppr 0 1 189 2pps 0 1 18h 2ppt 0 1 185 2ppu 0 1 18i 2ppv 0 1 181 2ppw 0 1 184
2ppx 1 1 17u 2ppz 0 1 17y 2pq0 0 1 180 2pq1 0 1 186 2pq2 0 1 188 2pq3 0 1 18a 2q7f 0 1 2r 2q7g 0
1 36 2q7k p 1 2p 2qde 0 1 9md 2qds 0 1 jez 2qdt 0 1 i1j 2qdu 0 1 gjw 2qdv 0 1 9mv 2qdw 0 1 fik
2qdx 0 1 hlm 2qdy 0 1 r8j 2qdz 0 1 hm1 2qe0 0 1 fj8 2qe1 0 1 k68 2qe2 0 1 mch 2qe3 0 1 k2h 2qe4
0 1 g99 2qe5 0 1 ivg 2qe6 0 1 g3x 2qe7 0 1 k34 2qe8 0 1 g7x 2qe9 0 1 oqq 2qea 0 1 n4v 2qeb 0 1
rs9 2qec 0 1 hkg 2qed 0 1 gmx 2qee 0 1 lxw 2qef 0 1 jh1 2qeg 0 1 jmd 2qeh 0 1 feo 2qei 0 1 fex
2qej 0 1 si2 2qek 0 1 ijq 2qel 0 1 ffx 2qem 0 1 gkz 2qen 0 1 jk7 2qeo 0 1 rxs 2qep 0 1 jf7 2qeq
0 1 o01 2qer 0 1 o6y 2qes 0 1 glk 2qet 0 1 lts 2qeu 0 1 kcp 2qev 0 1 kco 2qew 0 1 n5f 2qex 0 1
gaa 2qey 0 1 gxi 2qez 0 1 sp9 2qfk 0 1 ivr 2qfl 0 1 gkv 2sc0 9 1 1c 464g 0 1 fgd 464h 0 1 fg8
464i 0 1 fgh 464j 0 1 2tcy 464k 0 1 fog 464l 0 1 fqm 464m 0 1 fqz 464n 0 1 fsy 464o 0 1 fwa 464p
0 1 fx5 464q 0 1 fzb 464r 0 1 fyn 464s 0 1 ae6 464t 0 1 2ud6 464u 0 1 g25 464v 0 1 g2c 464w 0 1
g2s 464x 0 1 g3b 464y 0 1 2u58 464z 0 1 aex 4650 0 1 g2v 4651 0 1 g3x 4652 0 1 2u6j 4653 0 1 g47
4654 0 1 g4k 4655 0 1 fkc 4656 0 1 g4s 4657 0 1 g51 4658 0 1 3ly7 4659 0 1 g6t 465a 0 1 g77 465b
0 1 afz 465c 0 1 g8r 465d 0 1 g92 465e 0 1 gaa 465f 0 1 gaf 465g 0 1 ahh 465h 0 1 gcn 465i 0 1
gcp 465j 0 1 gdg 465k 0 1 ge2 465l 1 1 ged 465n 0 1 gev 465o 0 1 gg9 465p 0 1 ggh 465q 0 1 ggq
465r 0 1 ghf 465s 0 1 ghp 465t 0 1 ghr 465u 0 1 ghr 465v 0 1 ghr 465w 0 1 2v58 465x 0 1 m7k 465y
0 1 gju 465z 0 1 gkf 4660 0 1 2vdv 4661 0 1 gkr 4662 0 1 gkx 4663 0 1 gli 4664 0 1 gpq 4665 0 1
gmw 4666 0 1 gnc 4667 0 1 go8 4668 0 1 gpu 4669 0 1 gs6 466a 0 1 gsw 466b 0 1 gur 466c 0 1 gv7
466d 0 1 gw4 466e 0 1 gw4 466f 0 1 gwp 466g 0 1 gx7 466h 0 1 gxf 466i 0 1 gxu 466j 0 1 h7a 466k
0 1 gzq 466l 0 1 h7b 466m 0 1 h1t 466n 0 1 h2s 466o 0 1 g7b 466p 0 1 hke 466q 0 1 hce 466r 0 1
hdg 466s 0 1 he5 466t 0 1 haj 466u 0 1 hf6 466v 0 1 hf5 466w 0 1 hik 466x 0 1 2x9g 466y 0 1 hki
466z 0 1 hkn 4670 0 1 hl2 4671 0 1 hlm 4672 0 1 hlu 4673 0 1 hnm 4674 0 1 2xm0 4675 0 1 2xnu
4676 0 1 hrg 4677 0 1 hsr 4678 0 1 ht3 4679 0 1 hqw 467a 0 1 huu 467b 0 1 aum 467c 0 1 av0 467d
0 1 hzc 467e 0 1 i0u 467f 0 1 i0u 467g 0 1 2y88 467h 0 1 i4j 467i 0 1 i54 467j 0 1 i5j 467k 0 1
i5v 467l 0 1 2yhk 467m 0 1 i67 467n 0 1 i6e 467o 0 1 itv 467p 0 1 i76 467q 0 1 ayp 467r 0 1 i8w
467s 0 1 i9a 467t 0 1 ibk 467u 0 1 ia5 467v 0 1 2z1g 467w 0 1 if7 467x 0 1 2z1i 467y 0 1 ige
467z 0 1 igb 4680 0 1 igs 4681 1 1 ijl 4683 0 1 b3j 4684 0 1 ikd 4685 0 1 ilk 4686 0 1 im5 4687
0 1 ind 4688 0 1 b4y 4689 0 1 2zr7 468a 0 1 b5o 468b 0 1 ipc 468c 0 1 ipf 468d 0 1 ipi 468e 0 1
iq2 468f 0 1 3pg2 468g 0 1 iri 468h 0 1 3035 468i 0 1 3035 468j 0 1 poh 468k 0 1 isi 468l 0 1
isi 468m 0 1 b7r 468n 0 1 335k 468o 0 1 3cgq 468p 0 1 iua 468q 0 1 iuj 468r 0 1 b8j 468s 0 1 ivu
468t 0 1 ix9 468u 0 1 ixj 468v 0 1 iyh 468w 0 1 j29 468x 0 1 bay 468y 0 1 ba4 468z 0 1 j2s 4690
0 1 30t0 4691 0 1 j47 4692 0 1 j7s 4693 0 1 j7w 4694 0 1 j7y 4695 0 1 j7w 4696 0 1 j96 4697 0 1
j9q 4698 0 1 jaq 4699 0 1 jac 469a 0 1 jan 469b 0 1 jby 469c 0 1 jci 469d 0 1 jcm 469e 0 1 jdc
469f 0 1 jdn 469g 0 1 jfh 469h 0 1 jht 469i 0 1 jis 469j 0 1 jm8 469k 0 1 31n0 469l 0 1 jlp 469m
0 1 jjw 469n 0 1 jmw 469o 0 1 jnn 469p 0 1 jqc 469q 0 1 31td 469r 0 1 js2 469s 0 1 jph 469t 0 1
jop 469u 0 1 bhq 469v 0 1 ju1 469w 0 1 jum 469x 0 1 jvh 469y 0 1 juf 469z 0 1 bjg 46a0 0 1 k0f
46a1 0 1 k18 46a2 0 1 32mi 46a3 0 1 k4j 46a4 0 1 kc8 46a5 0 1 k7d 46a6 0 1 bo9 46a7 0 1 k9d 46a8
0 1 bns 46a9 0 1 bms 46aa 0 1 g42 46ab 0 1 g45 46ac 0 1 kcg 46ad 0 1 k9o 46ae 0 1 pf1 46af 0 1
deh 46ag 0 1 kd3 46ah 0 1 kd7 46ai 0 1 kdd 46aj 0 1 kf2 46ak 0 1 ker 46al 0 1 33cz 46am 0 1 bpl
46an 0 1 kje 46ao 0 1 kg5 46ap 0 1 klu 46aq 0 1 kn9 46ar 0 1 33hp 46as 0 1 kni 46at 0 1 kkf 46au
0 1 kr8 46av 0 1 brx 46aw 0 1 ksi 46ax 0 1 kv7 46ay 0 1 kx6 46az 0 1 l2g 46b0 0 1 33xf 46b1 0 1
l3v 46b2 0 1 bvc 46b3 0 1 l5t 46b4 0 1 34br 46b5 0 1 l78 46b6 0 1 bwu 46b7 0 1 l82 46b8 0 1 l9b
46b9 1 1 la2 46bb 0 1 34p9 46bc 0 1 2yvf 46bd 0 1 34sa 46be 0 1 le6 46bf 0 1 354s 46bg 0 1 lhb
46bh 0 1 lhp 46bi 0 1 lev 46bj 0 1 ljq 46bk 0 1 lku 46bl 0 1 lmf 46bm 0 1 lkx 46bn 0 1 lm1 46bo
0 1 lmg 46bp 0 1 lmt 46bq 0 1 357i 46br 0 1 lkk 46bs 0 1 lrj 46bt 0 1 lta 46bu 0 1 c37 46bv 0 1
lvv 46bw 0 1 lvr 46bx 0 1 35jl 46by 0 1 lq1 46bz 0 1 m0e 46c0 0 1 35ni 46c1 0 1 35ou 46c2 0 1
m2u 46c3 0 1 m61 46c4 0 1 m5a 46c5 0 1 m57 46c6 0 1 c5y 46c7 0 1 m6i 46c8 0 1 m7x 46c9 0 1 m7r
46ca 0 1 m99 46cb 0 1 2u5h 46cc 0 1 mdh 46cd 0 1 368z 46ce 0 1 mfw 46cf 0 1 36i3 46cg 0 1 mjs
46ch 0 1 mk5 46ci 0 1 mkw 46cj 0 1 36yw 46ck 0 1 mm8 46cl 0 1 mmt 46cm 0 1 3779 46cn 0 1 37dg
46co 0 1 mt6 46cp 0 1 mtn 46cq 0 1 cdo 46cr 0 1 mud 46cs 0 1 ce0 46ct 0 1 ce0 46cu 0 1 myv 46cv
0 1 mzg 46cw 0 1 n01 46cx 0 1 n0l 46cy 0 1 n2i 46cz 0 1 cgr 46d0 0 1 n50 46d1 0 1 386u 46d2 0 1
n5q 46d3 0 1 389e 46d4 0 1 n74 46d5 0 1 2zrz 46d6 0 1 nbk 46d7 0 1 38v5 46d8 0 1 38vs 46d9 0 1
38zo 46da 0 1 cn0 46db 0 1 cnc 46dc 0 1 nhw 46dd 0 1 394j 46de 0 1 394i 46df 0 1 395l 46dg 0 1
396b 46dh 1 1 nj2 46dj 0 1 nj3 46dk 0 1 nka 46dl 0 1 cop 46dm 0 1 nm3 46dn 0 1 cp2 46do 0 1 cra
46dp 0 1 39r1 46dq 0 1 nri 46dr 0 1 nt8 46ds 0 1 nv0 46dt 0 1 ctf 46du 0 1 3a5i 46dv 0 1 nyu
46dw 0 1 3a8q 46dx 0 1 3a9x 46dy 0 1 o0f 46dz 0 1 o2z 46e0 0 1 cvj 46e1 0 1 o5c 46e2 0 1 o5m
46e3 0 1 o5r 46e4 0 1 3at8 46e5 0 1 3b1j 46e6 0 1 3b1j 46e7 0 1 oa6 46e8 0 1 d1e 46e9 0 1 3b8r
46ea 0 1 og6 46eb 0 1 og9 46ec 0 1 d2f 46ed 0 1 3beo 46ee 0 1 onm 46ef 0 1 d5s 46eg 0 1 oo8 46eh
0 1 oo3 46ei 0 1 oow 46ej 0 1 3c06 46ek 0 1 orn 46el 0 1 d8h 46em 0 1 ouf 46en 0 1 ow2 46eo 0 1
oxx 46ep 0 1 d9w 46eq 0 1 3ciw 46er 0 1 3cjr 46es 0 1 dax 46et 0 1 3cnt 46eu 0 1 p6i 46ev 0 1
3cqm 46ew 0 1 p79 46ex 0 1 pa2 46ey 0 1 pad 46ez 0 1 3d22 46f0 0 1 3d43 46f1 0 1 pcw 46f2 0 1
3d7s 46f3 0 1 pdc 46f4 0 1 33a7 46f5 0 1 ded 46f6 0 1 pf6 46f7 0 1 phf 46f8 0 1 dfv 46f9 0 1 pj2
46fa 0 1 hx1 46fb 0 1 3dlz 46fc 0 1 3dmd 46fd 0 1 33bn 46fe 0 1 33bw 46ff 0 1 poh 46fg 0 1 pok
46fh 0 1 sda 46fi 0 1 dij 46fj 0 1 psh 46fk 0 1 psb 46fl 0 1 pst 46fm 0 1 gc3 46fn 0 1 ptd 46fo
0 1 ptf 46fp 0 1 ptp 46fq 0 1 puu 46fr 0 1 3ebg 46fs 0 1 put 46ft 0 1 pwd 46fu 0 1 pyb 46fv 0 1
q0d 46fw 0 1 pwj 46fx 0 1 q0t 46fy 0 1 q1z 46fz 0 1 q53 46g0 0 1 pxv 46g1 0 1 q16 46g2 0 1 q18
46g3 0 1 q1o 46g4 0 1 3eie 46g5 0 1 3eqz 46g6 0 1 3emt 46g7 0 1 dnv 46g8 0 1 q9d 46g9 0 1 q9f
46ga 0 1 qae 46gb 0 1 3g0a 46gc 0 1 qck 46gd 0 1 3f3g 46ge 0 1 dp9 46gf 0 1 dpd 46gg 0 1 3f75
46gh 0 1 3ff6 46gi 0 1 dpn 46gj 0 1 qj4 46gk 0 1 qjg 46gl 0 1 qjr 46gm 0 1 qjt 46gn 0 1 qll 46go
0 1 qko 46gp 0 1 qoe 46gq 0 1 qn6 46gr 0 1 qrd 46gs 0 1 qp4 46gt 0 1 qqz 46gu 0 1 qrq 46gv 0 1
dsn 46gw 0 1 qu9 46gx 0 1 qv5 46gy 0 1 dtl 46gz 0 1 qxs 46h0 0 1 qxv 46h1 0 1 3giv 46h2 0 1 r13
46h3 0 1 r1a 46h4 0 1 dv9 46h5 0 1 r22 46h6 0 1 aez 46h7 0 1 3gz2 46h8 0 1 3h46 46h9 0 1 dz2
46ha 0 1 dzb 46hb 0 1 rds 46hc 0 1 rfx 46hd 0 1 rka 46he 0 1 rpx 46hf 0 1 3hrc 46hg 0 1 rsb 46hh
0 1 rsx 46hi 0 1 rvf 46hj 0 1 rxz 46hk 0 1 3i9b 46hl 0 1 2upw 46hm 0 1 s0b 46hn 0 1 rzw 46ho 0 1
s1c 46hp 0 1 2uvy 46hq 0 1 s7o 46hr 0 1 sag 46hs 0 1 3jki 46ht 0 1 3jl9 46hu 0 1 sk4 46hv 0 1
smp 46hw 0 1 snl 46hx 0 1 3ju6 46hy 0 1 snv 46hz 0 1 svs 46i0 1 1 t07 46i2 0 1 sxo 46i3 0 1 t89
46i4 0 1 t91 46i5 0 1 3ksa 46i6 0 1 tjf 46i7 0 1 ej9 46i8 0 1 tkn 46i9 0 1 3l2v 46ia 0 1 eli
46ib 0 1 ts3 46ic 0 1 iia 46id 0 1 tur 46ie 0 1 3ltx 46if 0 1 3lzu 46ig 0 1 epa 46ih 0 1 epi
46ii 0 1 u00 46ij 0 1 3mdm 46ik 0 1 er6 46il 0 1 3mhi 46im 0 1 u17 46in 0 1 u17 46io 0 1 u21
46ip 0 1 3mpi 46iq 0 1 u76 46ir 0 1 eur 46is 0 1 u95 46it 0 1 ucn 46iu 0 1 ude 46iv 0 1 uf2 46iw
0 1 ez2 46ix 0 1 3nsg 46iy 0 1 umq 46iz 0 1 uv4 46j0 0 1 v0d 46j1 0 1 f66 46j2 0 1 f71 46j3 0 1
v3b 46j4 0 1 3owe 46j5 0 1 f7c 46j6 0 1 3oxx 46j7 0 1 3p5a 46j8 0 1 3p8x 46j9 0 1 vcr 46ja 0 1
f9y 46jb 0 1 veh 46jc 0 1 vem 46jd 0 1 vet 46je 0 1 vf3 46jf 0 1 vfa 46jg 0 1 vgb 46jh 0 1 3pxc"

/-- Code points that are replaced by several characters: the code point, how
many characters, and the characters. -/
def expandedTable : String :=
"4o 2 w lk 4v 2 w lg 50 2 w ld 54 2 w mf 58 3 1d 6dg 1g 59 3 1d 6dg 1e 5a 3 1f 6dg 1g 8g 2 2x lj
8i 2 2x 2y 8j 2 2x 2y 8v 2 30 53 8w 2 30 53 95 2 jg 32 ck 2 2s am cl 2 2s am cm 2 2s am cn 2 30
2y co 2 30 2y cp 2 30 2y cq 2 32 2y cr 2 32 2y cs 2 32 2y dt 2 2s 3e du 2 2s 3e dv 2 2s 3e k8 2
w li k9 2 w lj ka 2 w lm kb 2 w mg kc 2 w lf kd 2 w ln n8 2 lk ld oq 2 w qh p0 2 w ld p1 3 w lk
ld 13b 2 12d 136 19x 2 17r 19w 19y 2 18o 19w 19z 2 1c7 19w 1a0 2 18q 19w 1ug 2 1sl 1to 1uh 2 1sm
1to 1ui 2 1sn 1to 1uj 2 1ss 1to 1uk 2 1sx 1to 1ul 2 1sy 1to 1um 2 1t7 1to 1un 2 1tb 1to 1y4 2
1wh 1x8 1y5 2 1wi 1x8 1y7 2 1wv 1x8 20j 2 20i 20s 20m 2 20o 20s 21l 2 1zq 20s 21m 2 1zr 20s 21n
2 1zw 20s 21q 2 20b 20s 28s 2 275 27w 28t 2 276 27w 2sz 2 2tp 2sy 2wj 2 2x9 2wi 2xo 2 2wb 2vt
2xp 2 2wb 2w1 30j 2 30i 33r 30t 2 30s 33r 30y 2 30x 33r 313 2 312 33r 318 2 317 33r 31l 2 30g
33p 31v 2 31t 31u 31x 2 31t 31w 31y 2 33m 328 31z 3 33m 31t 328 320 2 33n 328 321 3 33n 31t 328
329 2 31t 328 32r 2 32q 33r 331 2 330 33r 336 2 335 33r 33b 2 33a 33r 33g 2 33f 33r 33t 2 32o
33p 61m 2 2p ji 680 2 64g qh 681 2 64h qh 682 2 64i qh 683 2 64j qh 684 2 64k qh 685 2 64l qh
686 2 64m qh 687 2 64n qh 688 2 64g qh 689 2 64h qh 68a 2 64i qh 68b 2 64j qh 68c 2 64k qh 68d 2
64l qh 68e 2 64m qh 68f 2 64n qh 68g 2 65c qh 68h 2 65d qh 68i 2 65e qh 68j 2 65f qh 68k 2 65g
qh 68l 2 65h qh 68m 2 65i qh 68n 2 65j qh 68o 2 65c qh 68p 2 65d qh 68q 2 65e qh 68r 2 65f qh
68s 2 65g qh 68t 2 65h qh 68u 2 65i qh 68v 2 65j qh 68w 2 674 qh 68x 2 675 qh 68y 2 676 qh 68z 2
677 qh 690 2 678 qh 691 2 679 qh 692 2 67a qh 693 2 67b qh 694 2 674 qh 695 2 675 qh 696 2 676
qh 697 2 677 qh 698 2 678 qh 699 2 679 qh 69a 2 67a qh 69b 2 67b qh 69e 2 67k qh 69f 2 q9 qh 69g
2 q4 qh 69j 2 69i qh 69o 2 q9 qh 69p 2 w lv 69r 2 w lv 69s 2 w n6 69t 3 w lk n6 69u 2 67o qh 69v
2 qf qh 69w 2 q6 qh 69z 2 69y qh 6a4 2 qf qh 6a5 3 w lv lc 6a6 3 w lv ld 6a7 3 w lv n6 6al 3 w
lw lc 6am 3 w lw ld 6an 3 w lw n6 6b1 3 w lk lc 6b2 3 w lk ld 6b6 2 67w qh 6b7 2 qx qh 6b8 2 r2
qh 6bb 2 6ba qh 6bg 2 qx qh 6bh 2 w ld 6bi 2 w lw 6c7 2 w mr 6cz 2 6cy 6cy 6d0 3 6cy 6cy 6cy 6d2
2 6d1 6d1 6d3 3 6d1 6d1 6d1 6d8 2 x x 6da 2 w lh 6dj 2 1r 1r 6dk 2 1r x 6dl 2 x 1r 6dz 4 6cy 6cy
6cy 6cy 6g8 2 36 37 6io 3 2p 1b 2r 6ip 3 2p 1b 37 6ir 2 4w 2r 6it 3 2r 1b 33 6iu 3 2r 1b 39 6ix
2 4w 2u 6ja 2 32 33 6jk 2 37 31 6jl 3 38 2t 30 6jm 2 38 31 6kb 3 2u 2p 3c 6kw 3 1d 6dg 1j 6kx 3
1d 6dg 1l 6ky 4 1d 6dg 1d 1c 6kz 3 1d 6dg 1f 6l0 3 1e 6dg 1f 6l1 3 1d 6dg 1h 6l2 3 1e 6dg 1h 6l3
3 1f 6dg 1h 6l4 3 1g 6dg 1h 6l5 3 1d 6dg 1i 6l6 3 1h 6dg 1i 6l7 3 1d 6dg 1k 6l8 3 1f 6dg 1k 6l9
3 1h 6dg 1k 6la 3 1j 6dg 1k 6lb 2 1d 6dg 6ld 2 2x 2x 6le 3 2x 2x 2x 6lf 2 2x 3a 6lh 2 3a 2x 6li
3 3a 2x 2x 6lj 4 3a 2x 2x 2x 6lk 2 2x 3c 6lm 2 3c 2x 6ln 3 3c 2x 2x 6lt 2 2x 2x 6lu 3 2x 2x 2x
6lv 2 2x 3a 6lx 2 3a 2x 6ly 3 3a 2x 2x 6lz 4 3a 2x 2x 2x 6m0 2 2x 3c 6m2 2 3c 2x 6m3 3 3c 2x 2x
6mh 3 1c 6dg 1f 6r0 2 6qz 6qz 6r1 3 6qz 6qz 6qz 6r3 2 6r2 6r2 6r4 3 6r2 6r2 6r2 76x 2 1d 1c 76y
2 1d 1d 76z 2 1d 1e 770 2 1d 1f 771 2 1d 1g 772 2 1d 1h 773 2 1d 1i 774 2 1d 1j 775 2 1d 1k 776
2 1d 1l 777 2 1e 1c 778 3 14 1d 15 779 3 14 1e 15 77a 3 14 1f 15 77b 3 14 1g 15 77c 3 14 1h 15
77d 3 14 1i 15 77e 3 14 1j 15 77f 3 14 1k 15 77g 3 14 1l 15 77h 4 14 1d 1c 15 77i 4 14 1d 1d 15
77j 4 14 1d 1e 15 77k 4 14 1d 1f 15 77l 4 14 1d 1g 15 77m 4 14 1d 1h 15 77n 4 14 1d 1i 15 77o 4
14 1d 1j 15 77p 4 14 1d 1k 15 77q 4 14 1d 1l 15 77r 4 14 1e 1c 15 78c 3 14 2p 15 78d 3 14 2q 15
78e 3 14 2r 15 78f 3 14 2s 15 78g 3 14 2t 15 78h 3 14 2u 15 78i 3 14 2v 15 78j 3 14 2w 15 78k 3
14 2x 15 78l 3 14 2y 15 78m 3 14 2z 15 78n 3 14 30 15 78o 3 14 31 15 78p 3 14 32 15 78q 3 14 33
15 78r 3 14 34 15 78s 3 14 35 15 78t 3 14 36 15 78u 3 14 37 15 78v 3 14 38 15 78w 3 14 39 15 78x
3 14 3a 15 78y 3 14 3b 15 78z 3 14 3c 15 790 3 14 3d 15 791 3 14 3e 15 8b0 4 6qz 6qz 6qz 6qz 8dw
3 1m 1m 1p 8dx 2 1p 1p 8dy 3 1p 1p 1p 8gs 2 8gt mw 9ln 2 w 9ll 9lo 2 w 9lm 9lr 2 9l4 9l6 9of 2
9mb 9mw 9vk 3 14 3cw 15 9vl 3 14 3cy 15 9vm 3 14 3cz 15 9vn 3 14 3d1 15 9vo 3 14 3d2 15 9vp 3 14
3d3 15 9vq 3 14 3d5 15 9vr 3 14 3d7 15 9vs 3 14 3d8 15 9vt 3 14 3da 15 9vu 3 14 3db 15 9vv 3 14
3dc 15 9vw 3 14 3dd 15 9vx 3 14 3de 15 9vy 3 14 xz4 15 9vz 3 14 yvs 15 9w0 3 14 zc4 15 9w1 3 14
108s 15 9w2 3 14 10p4 15 9w3 3 14 115g 15 9w4 3 14 1224 15 9w5 3 14 12ys 15 9w6 3 14 13f4 15 9w7
3 14 14bs 15 9w8 3 14 14s4 15 9w9 3 14 158g 15 9wa 3 14 15os 15 9wb 3 14 1654 15 9wc 3 14 13p8
15 9wd 4 14 1350 13ic 15 9we 4 14 1350 16f8 15 9wg 3 14 feo 15 9wh 3 14 fik 15 9wi 3 14 fex 15
9wj 3 14 h5n 15 9wk 3 14 fis 15 9wl 3 14 g31 15 9wm 3 14 fer 15 9wn 3 14 g2z 15 9wo 3 14 fh9 15
9wp 3 14 gg1 15 9wq 3 14 kco 15 9wr 3 14 m7f 15 9ws 3 14 ldg 15 9wt 3 14 kdk 15 9wu 3 14 ssx 15
9wv 3 14 h7j 15 9ww 3 14 k4l 15 9wx 3 14 kkq 15 9wy 3 14 kcp 15 9wz 3 14 ny6 15 9x0 3 14 glp 15
9x1 3 14 mm1 15 9x2 3 14 rs1 15 9x3 3 14 nz1 15 9x4 3 14 gc4 15 9x5 3 14 fkz 15 9x6 3 14 gos 15
9x7 3 14 i1y 15 9x8 3 14 nhf 15 9x9 3 14 flt 15 9xa 3 14 rt3 15 9xb 3 14 ggk 15 9xc 3 14 nzh 15
9xd 3 14 fm9 15 9xe 3 14 pnu 15 9xf 3 14 po3 15 9xs 3 34 38 2t 9xt 2 1e 1d 9xu 2 1e 1e 9xv 2 1e
1f 9xw 2 1e 1g 9xx 2 1e 1h 9xy 2 1e 1i 9xz 2 1e 1j 9y0 2 1e 1k 9y1 2 1e 1l 9y2 2 1f 1c 9y3 2 1f
1d 9y4 2 1f 1e 9y5 2 1f 1f 9y6 2 1f 1g 9y7 2 1f 1h 9z0 2 14c8 y5c 9z1 2 13p8 13dk a0h 2 1f 1i
a0i 2 1f 1j a0j 2 1f 1k a0k 2 1f 1l a0l 2 1g 1c a0m 2 1g 1d a0n 2 1g 1e a0o 2 1g 1f a0p 2 1g 1g
a0q 2 1g 1h a0r 2 1g 1i a0s 2 1g 1j a0t 2 1g 1k a0u 2 1g 1l a0v 2 1h 1c a0w 2 1d kco a0x 2 1e
kco a0y 2 1f kco a0z 2 1g kco a10 2 1h kco a11 2 1i kco a12 2 1j kco a13 2 1k kco a14 2 1l kco
a15 3 1d 1c kco a16 3 1d 1d kco a17 3 1d 1e kco a18 2 2w 2v a19 3 2t 36 2v a1a 2 2t 3a a1b 3 30
38 2s a2n 2 fl0 gp8 a2o 4 9lu 9n5 9oc 9mw a2p 4 9lu 9nv 9n9 9lt a2q 4 9lu 9o3 9ne 9lu a2r 3 9lu
9oc 9nv a2s 4 9lw 9mz 9o3 9m8 a2t 3 9lw 9o3 9mp a2u 3 9ly 9m1 9o3 a2v 5 9m0 9mh 9m7 9oc 9mx a2w
4 9m0 9oc 9m3 9oc a2x 3 9m2 9o3 9mh a2y 3 9m2 9oc 9nk a2z 3 9m3 9lw 9nu a30 4 9m3 9nt 9mr 9mw
a31 4 9m3 9nx 9nu 9oc a32 3 9m4 9nx 9o3 a33 3 9m4 9o3 9ni a34 2 9m6 9m4 a35 3 9m6 9mz 9oc a36 4
9m5 9np 9nu 9oc a37 4 9m6 9nv 9mo 9oc a38 2 9m5 9nx a39 5 9m5 9nx 9m8 9nt 9nk a3a 6 9m5 9nx 9nl
9oc 9mw 9nv a3b 5 9m5 9nx 9nz 9mr 9mw a3c 3 9m8 9nt 9nk a3d 5 9m8 9nt 9nk 9mw 9o3 a3e 5 9m7 9nv
9mk 9lw 9nx a3f 4 9m7 9nx 9oc 9n1 a3g 3 9m9 9oc 9mh a3h 3 9mb 9nv 9my a3i 3 9mb 9oc 9nh a3j 4
9md 9lw 9m7 9nv a3k 5 9md 9o3 9mp 9oc 9nk a3l 4 9mf 9nu 9o3 9m8 a3m 3 9mj 9o3 9mp a3n 3 9mj 9o3
9mw a3o 3 9mo 9oc 9mh a3p 2 9mv 9mf a3q 2 9mx 9nv a3r 2 9mw 9o3 a3s 2 9my 9n2 a3t 3 9n2 9mr 9mw
a3u 3 9n3 9lw 9ms a3v 5 9n5 9oc 9mj 9o3 9mw a3w 3 9n5 9oc 9ms a3x 4 9n4 9oc 9nw 9nv a3y 5 9n8
9lu 9mh 9mw 9nv a3z 3 9n8 9m7 9nv a40 2 9n8 9mb a41 2 9n7 9nv a42 5 9n9 9lt 9nt 9mr 9mx a43 4
9n9 9lv 9oc 9mw a44 5 9na 9mr 9mf 9lz 9nv a45 3 9n9 9nt 9o3 a46 5 9nc 9m7 9mn 9oc 9nv a47 2 9ne
9ml a48 3 9ne 9mz 9n6 a49 3 9nc 9nv 9ms a4a 3 9ne 9o3 9mh a4b 3 9ne 9oc 9mg a4c 3 9nd 9oc 9mn
a4d 4 9nh 9lw 9o3 9mw a4e 3 9ng 9nv 9mw a4f 2 9nf 9o3 a4g 3 9nh 9o3 9mx a4h 3 9nf 9oc 9nv a4i 3
9nf 9oc 9o3 a4j 4 9ni 9lw 9m7 9nx a4k 3 9ni 9lw 9nv a4l 3 9ni 9mr 9n3 a4m 3 9ni 9nv 9m7 a4n 5
9ni 9o3 9mf 9nr 9o3 a4o 4 9nj 9m7 9nx 9o3 a4p 2 9nj 9nu a4q 5 9nj 9nu 9n4 9oc 9nv a4r 2 9nl 9m4
a4s 4 9nl 9m4 9mw 9o3 a4t 4 9nl 9oc 9mw 9nv a4u 3 9no 9oc 9mx a4v 3 9no 9oc 9nv a4w 3 9nq 9lu
9o3 a4x 4 9nu 9mr 9mw 9nv a4y 2 9nu 9nt a4z 3 9nv 9n8 9oc a50 4 9nv 9oc 9na 9nv a51 2 9nw 9nk
a52 5 9nw 9o3 9mw 9ma 9o3 a53 3 9nz 9mr 9mw a54 2 1c m9l a55 2 1d m9l a56 2 1e m9l a57 2 1f m9l
a58 2 1g m9l a59 2 1h m9l a5a 2 1i m9l a5b 2 1j m9l a5c 2 1k m9l a5d 2 1l m9l a5e 3 1d 1c m9l
a5f 3 1d 1d m9l a5g 3 1d 1e m9l a5h 3 1d 1f m9l a5i 3 1d 1g m9l a5j 3 1d 1h m9l a5k 3 1d 1i m9l
a5l 3 1d 1j m9l a5m 3 1d 1k m9l a5n 3 1d 1l m9l a5o 3 1e 1c m9l a5p 3 1e 1d m9l a5q 3 1e 1e m9l
a5r 3 1e 1f m9l a5s 3 1e 1g m9l a5t 3 2w 34 2p a5u 2 2s 2p a5v 2 2p 39 a5w 3 2q 2p 36 a5x 2 33
3a a5y 2 34 2r a5z 2 2s 31 a60 3 2s 31 1e a61 3 2s 31 1f a62 2 2x 39 a63 2 inn jdc a64 2 k6l gp8
a65 2 hlz l7n a66 2 k5q lh7 a67 4 kkq irz fmi ny6 a68 2 34 2p a69 2 32 2p a6a 2 qk 2p a6b 2 31
2p a6c 2 2z 2p a6d 2 2z 2q a6e 2 31 2q a6f 2 2v 2q a6g 3 2r 2p 30 a6h 4 2z 2r 2p 30 a6i 2 34 2u
a6j 2 32 2u a6k 2 qk 2u a6l 2 qk 2v a6m 2 31 2v a6n 2 2z 2v a6o 2 2w 3e a6p 3 2z 2w 3e a6q 3 31
2w 3e a6r 3 2v 2w 3e a6s 3 38 2w 3e a6t 2 qk 30 a6u 2 31 30 a6v 2 2s 30 a6w 2 2z 30 a6x 2 2u 31
a6y 2 32 31 a6z 2 qk 31 a70 2 31 31 a71 2 2r 31 a72 2 2z 31 a73 3 31 31 1e a74 3 2r 31 1e a75 2
31 1e a76 3 2z 31 1e a77 3 31 31 1f a78 3 2r 31 1f a79 2 31 1f a7a 3 2z 31 1f a7b 3 31 6qd 37
a7c 4 31 6qd 37 1e a7d 2 34 2p a7e 3 2z 34 2p a7f 3 31 34 2p a7g 3 2v 34 2p a7h 3 36 2p 2s a7i 5
36 2p 2s 6qd 37 a7j 6 36 2p 2s 6qd 37 1e a7k 2 34 37 a7l 2 32 37 a7m 2 qk 37 a7n 2 31 37 a7o 2
34 3a a7p 2 32 3a a7q 2 qk 3a a7r 2 31 3a a7s 2 2z 3a a7t 2 31 3a a7u 2 34 3b a7v 2 32 3b a7w 2
qk 3b a7x 2 31 3b a7y 2 2z 3b a7z 2 31 3b a80 2 2z qx a81 2 31 qx a83 2 2q 35 a84 2 2r 2r a85 2
2r 2s a86 4 2r 6qd 2z 2v a88 2 2s 2q a89 2 2v 3d a8a 2 2w 2p a8b 2 2w 34 a8c 2 2x 32 a8d 2 2z 2z
a8e 2 2z 31 a8f 2 2z 38 a8g 2 30 31 a8h 2 30 32 a8i 3 30 33 2v a8j 2 30 3c a8k 2 31 2q a8l 3 31
2x 30 a8m 3 31 33 30 a8n 2 34 2w a8p 3 34 34 31 a8q 2 34 36 a8r 2 37 36 a8s 2 37 3a a8t 2 3b 2q
a8u 3 3a 6qd 31 a8v 3 2p 6qd 31 a8w 2 1d k4l a8x 2 1e k4l a8y 2 1f k4l a8z 2 1g k4l a90 2 1h k4l
a91 2 1i k4l a92 2 1j k4l a93 2 1k k4l a94 2 1l k4l a95 3 1d 1c k4l a96 3 1d 1d k4l a97 3 1d 1e
k4l a98 3 1d 1f k4l a99 3 1d 1g k4l a9a 3 1d 1h k4l a9b 3 1d 1i k4l a9c 3 1d 1j k4l a9d 3 1d 1k
k4l a9e 3 1d 1l k4l a9f 3 1e 1c k4l a9g 3 1e 1d k4l a9h 3 1e 1e k4l a9i 3 1e 1f k4l a9j 3 1e 1g
k4l a9k 3 1e 1h k4l a9l 3 1e 1i k4l a9m 3 1e 1j k4l a9n 3 1e 1k k4l a9o 3 1e 1l k4l a9p 3 1f 1c
k4l a9q 3 1f 1d k4l a9r 3 2v 2p 30 1dkw 2 2u 2u 1dkx 2 2u 2x 1dky 2 2u 30 1dkz 3 2u 2u 2x 1dl0 3
2u 2u 30 1dl1 2 37 38 1dl2 2 37 38 1dlf 2 12s 12u 1dlg 2 12s 12d 1dlh 2 12s 12j 1dli 2 132 12u
1dlj 2 12s 12l 1dlp 2 15l 14k 1dlr 2 16a 14n 1dm2 2 161 14x 1dm3 2 161 14y 1dm4 3 161 14s 14x
1dm5 3 161 14s 14y 1dm6 2 15c 14n 1dm7 2 15c 14o 1dm8 2 15c 14s 1dm9 2 15d 14s 1dma 2 15e 14s
1dmb 2 15f 14s 1dmc 2 15g 14s 1dmd 2 15h 14s 1dme 2 15i 14s 1dmg 2 15k 14s 1dmh 2 15l 14s 1dmi 2
15m 14s 1dmj 2 15n 14s 1dmk 2 15o 14s 1dmm 2 15q 14s 1dmo 2 15s 14s 1dmp 2 15t 14s 1dmr 2 15v
14s 1dms 2 15w 14s 1dmu 2 15y 14s 1dmv 2 15z 14s 1dmw 2 160 14s 1dmx 2 161 14s 1dmy 2 162 14s
1dmz 2 15h 14p 1dn0 2 15d 14v 1dn1 2 15n 14v 1dn2 2 15w 14v 1dn3 2 15c 15o 1dr1 2 1c7 19w 1dre 2
17q 17r 1drf 2 17q 17r 1drg 2 17q 1cl 1drh 2 17q 1cl 1dri 2 17q 18o 1drj 2 17q 18o 1drk 2 17q
1c7 1drl 2 17q 1c7 1drm 2 17q 1c6 1drn 2 17q 1c6 1dro 2 17q 1c8 1drp 2 17q 1c8 1drq 2 17q 1cg
1drr 2 17q 1cg 1drs 2 17q 1cg 1drt 2 17q 18p 1dru 2 17q 18p 1drv 2 17q 18p 1ds0 2 17q 17w 1ds1 2
17q 17x 1ds2 2 17q 18l 1ds3 2 17q 18p 1ds4 2 17q 18q 1ds5 2 17s 17w 1ds6 2 17s 17x 1ds7 2 17s
17y 1ds8 2 17s 18l 1ds9 2 17s 18p 1dsa 2 17s 18q 1dsb 2 17u 17w 1dsc 2 17u 17x 1dsd 2 17u 17y
1dse 2 17u 18l 1dsf 2 17u 18p 1dsg 2 17u 18q 1dsh 2 17v 17w 1dsi 2 17v 18l 1dsj 2 17v 18p 1dsk 2
17v 18q 1dsl 2 17w 17x 1dsm 2 17w 18l 1dsn 2 17x 17w 1dso 2 17x 18l 1dsp 2 17y 17w 1dsq 2 17y
17x 1dsr 2 17y 18l 1dss 2 183 17w 1dst 2 183 17x 1dsu 2 183 17y 1dsv 2 183 18l 1dsw 2 185 17x
1dsx 2 185 18l 1dsy 2 186 17w 1dsz 2 186 17x 1dt0 2 186 17y 1dt1 2 186 18l 1dt2 2 187 17x 1dt3 2
187 18l 1dt4 2 188 18l 1dt5 2 189 17w 1dt6 2 189 18l 1dt7 2 18a 17w 1dt8 2 18a 18l 1dt9 2 18h
17w 1dta 2 18h 17x 1dtb 2 18h 17y 1dtc 2 18h 18l 1dtd 2 18h 18p 1dte 2 18h 18q 1dtf 2 18i 17x
1dtg 2 18i 18l 1dth 2 18i 18p 1dti 2 18i 18q 1dtj 2 18j 17r 1dtk 2 18j 17w 1dtl 2 18j 17x 1dtm 2
18j 17y 1dtn 2 18j 18k 1dto 2 18j 18l 1dtp 2 18j 18p 1dtq 2 18j 18q 1dtr 2 18k 17w 1dts 2 18k
17x 1dtt 2 18k 17y 1dtu 2 18k 18l 1dtv 2 18k 18p 1dtw 2 18k 18q 1dtx 2 18l 17w 1dty 2 18l 17x
1dtz 2 18l 17y 1du0 2 18l 18l 1du1 2 18l 18p 1du2 2 18l 18q 1du3 2 18m 17w 1du4 2 18m 17x 1du5 2
18m 17y 1du6 2 18m 18l 1du7 2 18m 18p 1du8 2 18m 18q 1du9 2 18n 17w 1dua 2 18n 18l 1dub 2 18n
18p 1duc 2 18n 18q 1dud 2 18q 17w 1due 2 18q 17x 1duf 2 18q 17y 1dug 2 18q 18l 1duh 2 18q 18p
1dui 2 18q 18q 1duj 2 180 19s 1duk 2 181 19s 1dul 2 18p 19s 1dum 3 w 18s 18x 1dun 3 w 18t 18x
1duo 3 w 18u 18x 1dup 3 w 18v 18x 1duq 3 w 18w 18x 1dur 3 w 18x 19s 1dus 2 17q 181 1dut 2 17q
182 1duu 2 17q 18l 1duv 2 17q 18m 1duw 2 17q 18p 1dux 2 17q 18q 1duy 2 17s 181 1duz 2 17s 182
1dv0 2 17s 18l 1dv1 2 17s 18m 1dv2 2 17s 18p 1dv3 2 17s 18q 1dv4 2 17u 181 1dv5 2 17u 182 1dv6 2
17u 18l 1dv7 2 17u 18m 1dv8 2 17u 18p 1dv9 2 17u 18q 1dva 2 17v 181 1dvb 2 17v 182 1dvc 2 17v
18l 1dvd 2 17v 18m 1dve 2 17v 18p 1dvf 2 17v 18q 1dvg 2 18h 18p 1dvh 2 18h 18q 1dvi 2 18i 18p
1dvj 2 18i 18q 1dvk 2 18j 17r 1dvl 2 18j 18k 1dvm 2 18j 18l 1dvn 2 18j 18p 1dvo 2 18j 18q 1dvp 2
18k 18l 1dvq 2 18k 18p 1dvr 2 18k 18q 1dvs 2 18l 17r 1dvt 2 18l 18l 1dvu 2 18m 181 1dvv 2 18m
182 1dvw 2 18m 18l 1dvx 2 18m 18m 1dvy 2 18m 18p 1dvz 2 18m 18q 1dw0 2 18p 19s 1dw1 2 18q 181
1dw2 2 18q 182 1dw3 2 18q 18l 1dw4 2 18q 18m 1dw5 2 18q 18p 1dw6 2 18q 18q 1dw7 2 17q 17w 1dw8 2
17q 17x 1dw9 2 17q 17y 1dwa 2 17q 18l 1dwb 2 17q 18n 1dwc 2 17s 17w 1dwd 2 17s 17x 1dwe 2 17s
17y 1dwf 2 17s 18l 1dwg 2 17s 18n 1dwh 2 17u 17w 1dwi 2 17u 17x 1dwj 2 17u 17y 1dwk 2 17u 18l
1dwl 2 17u 18n 1dwm 2 17v 18l 1dwn 2 17w 17x 1dwo 2 17w 18l 1dwp 2 17x 17w 1dwq 2 17x 18l 1dwr 2
17y 17w 1dws 2 17y 18l 1dwt 2 183 17w 1dwu 2 183 17x 1dwv 2 183 17y 1dww 2 183 18l 1dwx 2 185
17x 1dwy 2 185 17y 1dwz 2 185 18l 1dx0 2 186 17w 1dx1 2 186 17x 1dx2 2 186 17y 1dx3 2 186 18l
1dx4 2 187 17x 1dx5 2 188 18l 1dx6 2 189 17w 1dx7 2 189 18l 1dx8 2 18a 17w 1dx9 2 18a 18l 1dxa 2
18h 17w 1dxb 2 18h 17x 1dxc 2 18h 17y 1dxd 2 18h 18l 1dxe 2 18i 17x 1dxf 2 18i 18l 1dxg 2 18j
17w 1dxh 2 18j 17x 1dxi 2 18j 17y 1dxj 2 18j 18k 1dxk 2 18j 18l 1dxl 2 18k 17w 1dxm 2 18k 17x
1dxn 2 18k 17y 1dxo 2 18k 18l 1dxp 2 18k 18n 1dxq 2 18l 17w 1dxr 2 18l 17x 1dxs 2 18l 17y 1dxt 2
18l 18l 1dxu 2 18m 17w 1dxv 2 18m 17x 1dxw 2 18m 17y 1dxx 2 18m 18l 1dxy 2 18m 18n 1dxz 2 18n
17w 1dy0 2 18n 18l 1dy1 2 18n 19s 1dy2 2 18q 17w 1dy3 2 18q 17x 1dy4 2 18q 17y 1dy5 2 18q 18l
1dy6 2 18q 18n 1dy7 2 17q 18l 1dy8 2 17q 18n 1dy9 2 17s 18l 1dya 2 17s 18n 1dyb 2 17u 18l 1dyc 2
17u 18n 1dyd 2 17v 18l 1dye 2 17v 18n 1dyf 2 183 18l 1dyg 2 183 18n 1dyh 2 184 18l 1dyi 2 184
18n 1dyj 2 18j 18k 1dyk 2 18j 18l 1dyl 2 18k 18l 1dym 2 18m 18l 1dyn 2 18m 18n 1dyo 2 18q 18l
1dyp 2 18q 18n 1dyq 3 18g 18u 18x 1dyr 3 18g 18v 18x 1dys 3 18g 18w 18x 1dyt 2 187 18p 1dyu 2
187 18q 1dyv 2 189 18p 1dyw 2 189 18q 1dyx 2 18a 18p 1dyy 2 18a 18q 1dyz 2 183 18p 1dz0 2 183
18q 1dz1 2 184 18p 1dz2 2 184 18q 1dz3 2 17x 18p 1dz4 2 17x 18q 1dz5 2 17w 18p 1dz6 2 17w 18q
1dz7 2 17y 18p 1dz8 2 17y 18q 1dz9 2 185 18p 1dza 2 185 18q 1dzb 2 186 18p 1dzc 2 186 18q 1dzd 2
184 17w 1dze 2 184 17x 1dzf 2 184 17y 1dzg 2 184 18l 1dzh 2 184 181 1dzi 2 183 181 1dzj 2 185
181 1dzk 2 186 181 1dzl 2 187 18p 1dzm 2 187 18q 1dzn 2 189 18p 1dzo 2 189 18q 1dzp 2 18a 18p
1dzq 2 18a 18q 1dzr 2 183 18p 1dzs 2 183 18q 1dzt 2 184 18p 1dzu 2 184 18q 1dzv 2 17x 18p 1dzw 2
17x 18q 1dzx 2 17w 18p 1dzy 2 17w 18q 1dzz 2 17y 18p 1e00 2 17y 18q 1e01 2 185 18p 1e02 2 185
18q 1e03 2 186 18p 1e04 2 186 18q 1e05 2 184 17w 1e06 2 184 17x 1e07 2 184 17y 1e08 2 184 18l
1e09 2 184 181 1e0a 2 183 181 1e0b 2 185 181 1e0c 2 186 181 1e0d 2 184 17w 1e0e 2 184 17x 1e0f 2
184 17y 1e0g 2 184 18l 1e0h 2 183 18n 1e0i 2 184 18n 1e0j 2 187 18l 1e0k 2 183 17w 1e0l 2 183
17x 1e0m 2 183 17y 1e0n 2 184 17w 1e0o 2 184 17x 1e0p 2 184 17y 1e0q 2 187 18l 1e0r 2 188 18l
1e0s 2 17r 18r 1e0t 2 17r 18r 1e1c 3 17u 17w 18l 1e1d 3 17u 17x 17w 1e1e 3 17u 17x 17w 1e1f 3
17u 17x 18l 1e1g 3 17u 17y 18l 1e1h 3 17u 18l 17w 1e1i 3 17u 18l 17x 1e1j 3 17u 18l 17y 1e1k 3
17w 18l 17x 1e1l 3 17w 18l 17x 1e1m 3 17x 18l 18q 1e1n 3 17x 18l 18p 1e1o 3 183 17x 17w 1e1p 3
183 17w 17x 1e1q 3 183 17w 18p 1e1r 3 183 18l 17x 1e1s 3 183 18l 17x 1e1t 3 183 18l 17w 1e1u 3
183 18l 18l 1e1v 3 183 18l 18l 1e1w 3 185 17x 17x 1e1x 3 185 17x 17x 1e1y 3 185 18l 18l 1e1z 3
184 17x 18l 1e20 3 184 17x 18l 1e21 3 184 17w 18q 1e22 3 184 18l 17y 1e23 3 184 18l 17y 1e24 3
184 18l 18l 1e25 3 184 18l 18l 1e26 3 186 17x 18p 1e27 3 186 17y 18l 1e28 3 186 17y 18l 1e29 3
187 18l 17x 1e2a 3 187 18l 17x 1e2b 3 187 18l 18l 1e2c 3 187 18l 18q 1e2d 3 189 17w 18l 1e2e 3
189 18l 18l 1e2f 3 189 18l 18l 1e2g 3 189 18l 18p 1e2h 3 18a 18l 18l 1e2i 3 18a 18l 18q 1e2j 3
18a 18l 18p 1e2k 3 18h 17y 18l 1e2l 3 18h 17y 18l 1e2m 3 18i 18l 17x 1e2n 3 18i 18l 18l 1e2o 3
18k 17x 18l 1e2p 3 18k 17x 18q 1e2q 3 18k 17x 18p 1e2r 3 18k 17w 17w 1e2s 3 18k 17w 17w 1e2t 3
18k 17y 18l 1e2u 3 18k 17y 18l 1e2v 3 18k 18l 17x 1e2w 3 18k 18l 17x 1e2x 3 18l 17x 17w 1e2y 3
18l 17x 18l 1e2z 3 18l 17x 18q 1e30 3 18l 17w 17x 1e31 3 18l 17w 18l 1e32 3 18l 17y 17w 1e33 3
18l 17y 18l 1e36 3 18l 17w 17y 1e37 3 18n 18l 17w 1e38 3 18n 18l 18l 1e39 3 18m 17x 18l 1e3a 3
18m 17x 18p 1e3b 3 18m 17w 18l 1e3c 3 18m 17w 18l 1e3d 3 18m 17w 18p 1e3e 3 18m 18l 18q 1e3f 3
18m 18l 18p 1e3g 3 18q 18l 18l 1e3h 3 18q 18l 18l 1e3i 3 17s 17y 18q 1e3j 3 17u 17w 18q 1e3k 3
17u 17w 18p 1e3l 3 17u 17y 18q 1e3m 3 17u 17y 18p 1e3n 3 17u 18l 18q 1e3o 3 17u 18l 18p 1e3p 3
17w 18l 18q 1e3q 3 17w 17x 18p 1e3r 3 17w 18l 18p 1e3s 3 183 17y 18p 1e3t 3 185 17x 18q 1e3u 3
184 17x 18q 1e3v 3 186 17x 18q 1e3w 3 18k 17w 18q 1e3x 3 18k 18l 18q 1e3y 3 18q 17x 18q 1e3z 3
18q 17w 18q 1e40 3 18q 18l 18q 1e41 3 18l 18l 18q 1e42 3 18i 18l 18q 1e43 3 18m 17x 18q 1e44 3
18i 18l 17x 1e45 3 18k 17x 18l 1e46 3 189 18l 18q 1e47 3 18j 18l 18q 1e48 3 18m 17w 17x 1e49 3
18l 17y 18q 1e4a 3 18k 17w 18l 1e4b 3 18j 18l 18l 1e4c 3 18k 17w 18l 1e4d 3 18m 17w 17x 1e4e 3
17w 17x 18q 1e4f 3 17x 17w 18q 1e4g 3 18l 17w 18q 1e4h 3 18h 18l 18q 1e4i 3 17s 17x 18q 1e4j 3
18j 18l 18l 1e4k 3 189 17w 18l 1e4l 3 185 18l 18l 1e4m 3 183 17y 18q 1e4n 3 18m 17w 18q 1e5s 3
185 18k 1ci 1e5t 3 18i 18k 1ci 1e5u 4 17r 18k 18k 18n 1e5v 4 17r 18j 17s 181 1e5w 4 18l 17x 18l
17z 1e5x 4 185 18k 189 18l 1e5y 4 181 183 18o 18k 1e5z 4 189 18k 18q 18n 1e60 4 18o 183 18k 18l
1e61 3 185 18k 18p 1e62 i 185 18k 18p w 17r 18k 18k 18n w 189 18k 18q 18n w 18o 183 18k 18l 1e63
8 17w 18k w 17w 18k 17r 18k 18n 1e64 4 181 1cc 17r 18k 1e89 2 w lh 1e8a 2 w lh 1e8b 2 w lh 1e8c
2 w lh 1e9c 2 w 18r 1e9d 2 18g 18r 1e9e 2 w 18s 1e9g 2 w 18t 1e9i 2 w 18u 1e9j 2 18g 18u 1e9k 2
w 18v 1e9l 2 18g 18v 1e9m 2 w 18w 1e9n 2 18g 18w 1e9o 2 w 18x 1e9p 2 18g 18x 1e9q 2 w 18y 1e9r 2
18g 18y 1ed1 2 18k 17m 1ed2 2 18k 17m 1ed3 2 18k 17n 1ed4 2 18k 17n 1ed5 2 18k 17p 1ed6 2 18k
17p 1ed7 2 18k 17r 1ed8 2 18k 17r 1ejn 2 w lg 2jxa 2 2jx3 2jxh 2jxb 2 2jx4 2jxh 2jxc 3 2jx4 2jxh
2jxq 2jxd 3 2jx4 2jxh 2jxr 2jxe 3 2jx4 2jxh 2jxs 2jxf 3 2jx4 2jxh 2jxt 2jxg 3 2jx4 2jxh 2jxu
2jzv 2 2jzt 2jxh 2jzw 2 2jzu 2jxh 2jzx 3 2jzt 2jxh 2jxq 2jzy 3 2jzu 2jxh 2jxq 2jzz 3 2jzt 2jxh
2jxr 2k00 3 2jzu 2jxh 2jxr 2q69 2 1c 18 2q6a 2 1d 18 2q6b 2 1e 18 2q6c 2 1f 18 2q6d 2 1g 18 2q6e
2 1h 18 2q6f 2 1i 18 2q6g 2 1j 18 2q6h 2 1k 18 2q6i 2 1l 18 2q6o 3 14 2p 15 2q6p 3 14 2q 15 2q6q
3 14 2r 15 2q6r 3 14 2s 15 2q6s 3 14 2t 15 2q6t 3 14 2u 15 2q6u 3 14 2v 15 2q6v 3 14 2w 15 2q6w
3 14 2x 15 2q6x 3 14 2y 15 2q6y 3 14 2z 15 2q6z 3 14 30 15 2q70 3 14 31 15 2q71 3 14 32 15 2q72
3 14 33 15 2q73 3 14 34 15 2q74 3 14 35 15 2q75 3 14 36 15 2q76 3 14 37 15 2q77 3 14 38 15 2q78
3 14 39 15 2q79 3 14 3a 15 2q7a 3 14 3b 15 2q7b 3 14 3c 15 2q7c 3 14 3d 15 2q7d 3 14 3e 15 2q7e
3 9hw 37 9hx 2q7h 2 2r 2s 2q7i 2 3b 3e 2q8a 2 2w 3a 2q8b 2 31 3a 2q8c 2 37 2s 2q8d 2 37 37 2q8e
3 34 34 3a 2q8f 2 3b 2r 2q96 2 31 2r 2q97 2 31 2s 2q98 2 31 36 2qa8 2 2s 2y 2qdc 2 9kr 9jf 2qdd
2 9mb 9mb 2qf4 3 9hw kdo 9hx 2qf5 3 9hw fex 9hx 2qf6 3 9hw fik 9hx 2qf7 3 9hw i2x 9hx 2qf8 3 9hw
m9l 9hx 2qf9 3 9hw jf7 9hx 2qfa 3 9hw nh3 9hx 2qfb 3 9hw gd9 9hx 2qfc 3 9hw k0n 9hx"

end OperatorConsole.Url
