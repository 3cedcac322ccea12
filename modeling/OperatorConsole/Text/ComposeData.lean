/-!
# Composition data

Which characters are made of two others, and how marks are put in order, from
the Unicode character database, written as numbers in base 36.
-/

namespace OperatorConsole.Text

/-- Triples of a character, a mark that may follow it, and the one character
that both together make. -/
def compositionTable : String :=
"1t lc 5c 1t ld 5d 1t le 5e 1t lf 5f 1t lk 5g 1t lm 5h 1v mf 5j 1x lc 5k 1x ld 5l 1x le 5m 1x lk
5n 21 lc 5o 21 ld 5p 21 le 5q 21 lk 5r 26 lf 5t 27 lc 5u 27 ld 5v 27 le 5w 27 lf 5x 27 lk 5y 2d
lc 61 2d ld 62 2d le 63 2d lk 64 2h ld 65 2p lc 68 2p ld 69 2p le 6a 2p lf 6b 2p lk 6c 2p lm 6d
2r mf 6f 2t lc 6g 2t ld 6h 2t le 6i 2t lk 6j 2x lc 6k 2x ld 6l 2x le 6m 2x lk 6n 32 lf 6p 33 lc
6q 33 ld 6r 33 le 6s 33 lf 6t 33 lk 6u 39 lc 6x 39 ld 6y 39 le 6z 39 lk 70 3d ld 71 3d lk 73 1t
lg 74 2p lg 75 1t li 76 2p li 77 1t mg 78 2p mg 79 1v ld 7a 2r ld 7b 1v le 7c 2r le 7d 1v lj 7e
2r lj 7f 1v lo 7g 2r lo 7h 1w lo 7i 2s lo 7j 1x lg 7m 2t lg 7n 1x li 7o 2t li 7p 1x lj 7q 2t lj
7r 1x mg 7s 2t mg 7t 1x lo 7u 2t lo 7v 1z le 7w 2v le 7x 1z li 7y 2v li 7z 1z lj 80 2v lj 81 1z
mf 82 2v mf 83 20 le 84 2w le 85 21 lf 88 2x lf 89 21 lg 8a 2x lg 8b 21 li 8c 2x li 8d 21 mg 8e
2x mg 8f 21 lj 8g 22 le 8k 2y le 8l 23 mf 8m 2z mf 8n 24 ld 8p 30 ld 8q 24 mf 8r 30 mf 8s 24 lo
8t 30 lo 8u 26 ld 8z 32 ld 90 26 mf 91 32 mf 92 26 lo 93 32 lo 94 27 lg 98 33 lg 99 27 li 9a 33
li 9b 27 ln 9c 33 ln 9d 2a ld 9g 36 ld 9h 2a mf 9i 36 mf 9j 2a lo 9k 36 lo 9l 2b ld 9m 37 ld 9n
2b le 9o 37 le 9p 2b mf 9q 37 mf 9r 2b lo 9s 37 lo 9t 2c mf 9u 38 mf 9v 2c lo 9w 38 lo 9x 2d lf
a0 39 lf a1 2d lg a2 39 lg a3 2d li a4 39 li a5 2d lm a6 39 lm a7 2d ln a8 39 ln a9 2d mg aa 39
mg ab 2f le ac 3b le ad 2h le ae 3d le af 2h lk ag 2i ld ah 3e ld ai 2i lj aj 3e lj ak 2i lo al
3e lo am 27 m3 bk 33 m3 bl 2d m3 bz 39 m3 c0 1t lo ct 2p lo cu 21 lo cv 2x lo cw 27 lo cx 33 lo
cy 2d lo cz 39 lo d0 64 lg d1 70 lg d2 64 ld d3 70 ld d4 64 lo d5 70 lo d6 64 lc d7 70 lc d8 5g
lg da 6c lg db fa lg dc fb lg dd 5i lg de 6e lg df 1z lo di 2v lo dj 23 lo dk 2z lo dl 27 mg dm
33 mg dn dm lg do dn lg dp c7 lo dq ia lo dr 2y lo ds 1z ld dw 2v ld dx 26 lc e0 32 lc e1 5h ld
e2 6d ld e3 5i ld e4 6e ld e5 60 ld e6 6w ld e7 1t lr e8 2p lr e9 1t lt ea 2p lt eb 1x lr ec 2t
lr ed 1x lt ee 2t lt ef 21 lr eg 2x lr eh 21 lt ei 2x lt ej 27 lr ek 33 lr el 27 lt em 33 lt en
2a lr eo 36 lr ep 2a lt eq 36 lt er 2d lr es 39 lr et 2d lt eu 39 lt ev 2b me ew 37 me ex 2c me
ey 38 me ez 20 lo f2 2w lo f3 1t lj fa 2p lj fb 1x mf fc 2t mf fd 5y lg fe 6u lg ff 5x lg fg 6t
lg fh 27 lj fi 33 lj fj fi lg fk fj lg fl 2h lg fm 3d lg fn 4o ld p1 pd ld p2 ph ld p4 pj ld p5
pl ld p6 pr ld p8 px ld pa q1 ld pb qy ld pc pl lk q2 px lk q3 q9 ld q4 qd ld q5 qf ld q6 qh ld
q7 qz ld q8 qh lk qy qt lk qz qn ld r0 qt ld r1 qx ld r2 r6 ld r7 r6 lk r8 t1 lc sg t1 lk sh sz
ld sj sm lk sn t6 ld ss t4 lc st tf li su t4 li t5 u0 li u1 tx lc uo tx lk up tv ld ur uu lk uv
u2 ld v0 u0 lc v1 ub li v2 vo lr vq vp lr vr t2 li xt ty li xu sw li y8 ts li y9 sw lk ya ts lk
yb t1 li ye tx li yf yg lk yi yh lk yj t2 lk yk ty lk yl t3 lk ym tz lk yn t4 lg yq u0 lg yr t4
lk ys u0 lk yt ta lk yu u6 lk yv yw lk yy yx lk yz tp lk z0 ul lk z1 tf lg z2 ub lg z3 tf lk z4
ub lk z5 tf ln z6 ub ln z7 tj lk z8 uf lk z9 tn lk zc uj lk zd 17r 18z 17m 17r 190 17n 18o 190
17o 17r 191 17p 18q 190 17q 1cl 190 1c0 1c1 190 1c2 1ci 190 1cj 1t4 1to 1t5 1tc 1to 1td 1tf 1to
1tg 1xj 1xa 1xn 1xj 1xz 1xo 287 28m 288 287 27y 28b 287 28n 28c 2aa 2c7 2ac 2bq 2bi 2bu 2br 2bi
2bv 2bq 2c7 2bw 2fa 2fq 2fc 2in 2j9 2io 2iu 2j9 2iv 2iu 2ja 2iw 2iu 2iq 2iy 2iy 2j9 2iz 2me 2m6
2mi 2mf 2m6 2mj 2me 2mv 2mk 2qh 2q2 2qi 2qh 2q7 2qk 2qk 2q2 2ql 2qh 2qn 2qm 36t 372 36u 5c5 5dh
5c6 5c7 5dh 5c8 5c9 5dh 5ca 5cb 5dh 5cc 5cd 5dh 5ce 5ch 5dh 5ci 5dm 5dh 5dn 5do 5dh 5dp 5dq 5dh
5ds 5dr 5dh 5dt 5du 5dh 5dv 1t md 5xc 2p md 5xd 1u lj 5xe 2q lj 5xf 1u mb 5xg 2q mb 5xh 1u mp
5xi 2q mp 5xj 5j ld 5xk 6f ld 5xl 1w lj 5xm 2s lj 5xn 1w mb 5xo 2s mb 5xp 1w mp 5xq 2s mp 5xr 1w
mf 5xs 2s mf 5xt 1w ml 5xu 2s ml 5xv 7m lc 5xw 7n lc 5xx 7m ld 5xy 7n ld 5xz 1x ml 5y0 2t ml 5y1
1x mo 5y2 2t mo 5y3 fc li 5y4 fd li 5y5 1y lj 5y6 2u lj 5y7 1z lg 5y8 2v lg 5y9 20 lj 5ya 2w lj
5yb 20 mb 5yc 2w mb 5yd 20 lk 5ye 2w lk 5yf 20 mf 5yg 2w mf 5yh 20 mm 5yi 2w mm 5yj 21 mo 5yk 2x
mo 5yl 5r ld 5ym 6n ld 5yn 23 ld 5yo 2z ld 5yp 23 mb 5yq 2z mb 5yr 23 mp 5ys 2z mp 5yt 24 mb 5yu
30 mb 5yv 5yu lg 5yw 5yv lg 5yx 24 mp 5yy 30 mp 5yz 24 ml 5z0 30 ml 5z1 25 ld 5z2 31 ld 5z3 25
lj 5z4 31 lj 5z5 25 mb 5z6 31 mb 5z7 26 lj 5z8 32 lj 5z9 26 mb 5za 32 mb 5zb 26 mp 5zc 32 mp 5zd
26 ml 5ze 32 ml 5zf 5x ld 5zg 6t ld 5zh 5x lk 5zi 6t lk 5zj 98 lc 5zk 99 lc 5zl 98 ld 5zm 99 ld
5zn 28 ld 5zo 34 ld 5zp 28 lj 5zq 34 lj 5zr 2a lj 5zs 36 lj 5zt 2a mb 5zu 36 mb 5zv 5zu lg 5zw
5zv lg 5zx 2a mp 5zy 36 mp 5zz 2b lj 600 37 lj 601 2b mb 602 37 mb 603 9m lj 604 9n lj 605 9s lj
606 9t lj 607 602 lj 608 603 lj 609 2c lj 60a 38 lj 60b 2c mb 60c 38 mb 60d 2c mp 60e 38 mp 60f
2c ml 60g 38 ml 60h 2d mc 60i 39 mc 60j 2d mo 60k 39 mo 60l 2d ml 60m 39 ml 60n a0 ld 60o a1 ld
60p a2 lk 60q a3 lk 60r 2e lf 60s 3a lf 60t 2e mb 60u 3a mb 60v 2f lc 60w 3b lc 60x 2f ld 60y 3b
ld 60z 2f lk 610 3b lk 611 2f lj 612 3b lj 613 2f mb 614 3b mb 615 2g lj 616 3c lj 617 2g lk 618
3c lk 619 2h lj 61a 3d lj 61b 2i le 61c 3e le 61d 2i mb 61e 3e mb 61f 2i mp 61g 3e mp 61h 2w mp
61i 38 lk 61j 3b lm 61k 3d lm 61l an lj 61n 1t mb 61s 2p mb 61t 1t ll 61u 2p ll 61v 5e ld 61w 6a
ld 61x 5e lc 61y 6a lc 61z 5e ll 620 6a ll 621 5e lf 622 6a lf 623 61s le 624 61t le 625 76 ld
626 77 ld 627 76 lc 628 77 lc 629 76 ll 62a 77 ll 62b 76 lf 62c 77 lf 62d 61s li 62e 61t li 62f
1x mb 62g 2t mb 62h 1x ll 62i 2t ll 62j 1x lf 62k 2t lf 62l 5m ld 62m 6i ld 62n 5m lc 62o 6i lc
62p 5m ll 62q 6i ll 62r 5m lf 62s 6i lf 62t 62g le 62u 62h le 62v 21 ll 62w 2x ll 62x 21 mb 62y
2x mb 62z 27 mb 630 33 mb 631 27 ll 632 33 ll 633 5w ld 634 6s ld 635 5w lc 636 6s lc 637 5w ll
638 6s ll 639 5w lf 63a 6s lf 63b 630 le 63c 631 le 63d bk ld 63e bl ld 63f bk lc 63g bl lc 63h
bk ll 63i bl ll 63j bk lf 63k bl lf 63l bk mb 63m bl mb 63n 2d mb 63o 39 mb 63p 2d ll 63q 39 ll
63r bz ld 63s c0 ld 63t bz lc 63u c0 lc 63v bz ll 63w c0 ll 63x bz lf 63y c0 lf 63z bz mb 640 c0
mb 641 2h lc 642 3d lc 643 2h mb 644 3d mb 645 2h ll 646 3d ll 647 2h lf 648 3d lf 649 q9 lv 64g
q9 lw 64h 64g lc 64i 64h lc 64j 64g ld 64k 64h ld 64l 64g n6 64m 64h n6 64n pd lv 64o pd lw 64p
64o lc 64q 64p lc 64r 64o ld 64s 64p ld 64t 64o n6 64u 64p n6 64v qd lv 64w qd lw 64x 64w lc 64y
64x lc 64z 64w ld 650 64x ld 651 ph lv 654 ph lw 655 654 lc 656 655 lc 657 654 ld 658 655 ld 659
qf lv 65c qf lw 65d 65c lc 65e 65d lc 65f 65c ld 65g 65d ld 65h 65c n6 65i 65d n6 65j pj lv 65k
pj lw 65l 65k lc 65m 65l lc 65n 65k ld 65o 65l ld 65p 65k n6 65q 65l n6 65r qh lv 65s qh lw 65t
65s lc 65u 65t lc 65v 65s ld 65w 65t ld 65x 65s n6 65y 65t n6 65z pl lv 660 pl lw 661 660 lc 662
661 lc 663 660 ld 664 661 ld 665 660 n6 666 661 n6 667 qn lv 668 qn lw 669 668 lc 66a 669 lc 66b
668 ld 66c 669 ld 66d pr lv 66g pr lw 66h 66g lc 66i 66h lc 66j 66g ld 66k 66h ld 66l qt lv 66o
qt lw 66p 66o lc 66q 66p lc 66r 66o ld 66s 66p ld 66t 66o n6 66u 66p n6 66v px lw 66x 66x lc 66z
66x ld 671 66x n6 673 qx lv 674 qx lw 675 674 lc 676 675 lc 677 674 ld 678 675 ld 679 674 n6 67a
675 n6 67b q1 lv 67c q1 lw 67d 67c lc 67e 67d lc 67f 67c ld 67g 67d ld 67h 67c n6 67i 67d n6 67j
q9 lc 67k qd lc 67m qf lc 67o qh lc 67q qn lc 67s qt lc 67u qx lc 67w 64g n9 680 64h n9 681 64i
n9 682 64j n9 683 64k n9 684 64l n9 685 64m n9 686 64n n9 687 64o n9 688 64p n9 689 64q n9 68a
64r n9 68b 64s n9 68c 64t n9 68d 64u n9 68e 64v n9 68f 65c n9 68g 65d n9 68h 65e n9 68i 65f n9
68j 65g n9 68k 65h n9 68l 65i n9 68m 65j n9 68n 65k n9 68o 65l n9 68p 65m n9 68q 65n n9 68r 65o
n9 68s 65p n9 68t 65q n9 68u 65r n9 68v 674 n9 68w 675 n9 68x 676 n9 68y 677 n9 68z 678 n9 690
679 n9 691 67a n9 692 67b n9 693 67c n9 694 67d n9 695 67e n9 696 67f n9 697 67g n9 698 67h n9
699 67i n9 69a 67j n9 69b q9 li 69c q9 lg 69d 67k n9 69e q9 n9 69f q4 n9 69g q9 n6 69i 69i n9
69j pd li 69k pd lg 69l pd lc 69m pd n9 69o 4o n6 69t 67o n9 69u qf n9 69v q6 n9 69w qf n6 69y
69y n9 69z ph lc 6a0 pj lc 6a2 pj n9 6a4 69r lc 6a5 69r ld 6a6 69r n6 6a7 qh li 6a8 qh lg 6a9 qy
lc 6aa qh n6 6ae qy n6 6af pl li 6ag pl lg 6ah pl lc 6ai 6bi lc 6al 6bi ld 6am 6bi n6 6an qt li
6ao qt lg 6ap qz lc 6aq qp lv 6as qp lw 6at qt n6 6au qz n6 6av px li 6aw px lg 6ax px lc 6ay pt
lw 6b0 4o lc 6b1 67w n9 6b6 qx n9 6b7 r2 n9 6b8 qx n6 6ba 6ba n9 6bb pr lc 6bc q1 lc 6be q1 n9
6bg 6mo mw 6my 6mq mw 6mz 6ms mw 6ni 6og mw 6od 6ok mw 6oe 6oi mw 6of 6pv mw 6pw 6q0 mw 6q1 6q3
mw 6q4 6qr mw 6qs 6qt mw 6qu 6rg mw 6rl 6rn mw 6ro 6rp mw 6rr 6rs mw 6rt 1p mw 6sg 6sh mw 6si
6rx mw 6st 1o mw 6su 1q mw 6sv 6sk mw 6sw 6sl mw 6sx 6sy mw 6t0 6sz mw 6t1 6t2 mw 6t4 6t3 mw 6t5
6t6 mw 6tc 6t7 mw 6td 6te mw 6tg 6tf mw 6th 6ti mw 6tk 6tj mw 6tl 6ua mw 6uk 6ug mw 6ul 6uh mw
6um 6uj mw 6un 6t8 mw 6w0 6t9 mw 6w1 6tt mw 6w2 6tu mw 6w3 6uq mw 6wa 6ur mw 6wb 6us mw 6wc 6ut
mw 6wd 9jf 9ll 9jg 9jh 9ll 9ji 9jj 9ll 9jk 9jl 9ll 9jm 9jn 9ll 9jo 9jp 9ll 9jq 9jr 9ll 9js 9jt
9ll 9ju 9jv 9ll 9jw 9jx 9ll 9jy 9jz 9ll 9k0 9k1 9ll 9k2 9k4 9ll 9k5 9k6 9ll 9k7 9k8 9ll 9k9 9kf
9ll 9kg 9kf 9lm 9kh 9ki 9ll 9kj 9ki 9lm 9kk 9kl 9ll 9km 9kl 9lm 9kn 9ko 9ll 9kp 9ko 9lm 9kq 9kr
9ll 9ks 9kr 9lm 9kt 9ja 9ll 9lg 9lp 9ll 9lq 9m3 9ll 9m4 9m5 9ll 9m6 9m7 9ll 9m8 9m9 9ll 9ma 9mb
9ll 9mc 9md 9ll 9me 9mf 9ll 9mg 9mh 9ll 9mi 9mj 9ll 9mk 9ml 9ll 9mm 9mn 9ll 9mo 9mp 9ll 9mq 9ms
9ll 9mt 9mu 9ll 9mv 9mw 9ll 9mx 9n3 9ll 9n4 9n3 9lm 9n5 9n6 9ll 9n7 9n6 9lm 9n8 9n9 9ll 9na 9n9
9lm 9nb 9nc 9ll 9nd 9nc 9lm 9ne 9nf 9ll 9ng 9nf 9lm 9nh 9ly 9ll 9o4 9nz 9ll 9o7 9o0 9ll 9o8 9o1
9ll 9o9 9o2 9ll 9oa 9od 9ll 9oe 1fpu lj 1fpl 1fq2 lj 1fqc 1huh 1hve 1hui 1huj 1hve 1huk 1hut
1hve 1huz 1hyp 1hyf 1hym 1hyq 1hyf 1hyn 1idj 1ida 1idn 1idj 1idz 1ido 1if6 1ih5 1if7 1if8 1igr
1if9 1iff 1igy 1ifi 1ifk 1ih5 1ifl 1igy 1igy 1ih1 1igy 1igo 1ih3 1igy 1ih5 1ih4 1int 1inu 1inv
1int 1ink 1inw 1int 1inx 1iny 1iuw 1iun 1iuy 1iux 1iun 1iuz 1jjp 1jjk 1jjs 1xr2 1xr2 1xr5 1xr2
1xrd 1xr6 1xr2 1xr3 1xr7 1xrd 1xr3 1xr8 1xr2 1xr4 1xr9 1xr5 1xr3 1xra 1xr6 1xr3 1xrb 1xr5 1xr4
1xrc 206f 206f 206g 206b 206f 206h 206h 206f 206i"

/-- Ranges of marks: the distance from the range before, how many code points
follow the first, and the class by which marks are ordered. -/
def classTable : String :=
"lc k 6e 0 0 6g 0 3 64 0 0 6g 0 0 60 0 4 64 0 1 5m 0 3 64 0 1 5m 0 a 64 0 4 1 0 3 64 0 7 6e 0 0
6o 0 0 6e 0 2 64 0 2 6e 0 1 64 1 2 6e 0 3 64 0 0 6e 0 0 6g 0 1 64 0 0 6e 0 0 6h 0 1 6i 0 0 6h 0
1 6i 0 0 6h 0 c 6e 7n 4 6e 7d 0 64 0 3 6e 0 0 64 0 2 6e 0 0 66 0 0 64 0 5 6e 0 5 64 0 1 6e 0 0
64 0 1 6e 0 0 66 0 0 6c 0 0 6e 0 0 a 0 0 b 0 0 c 0 0 d 0 0 e 0 0 f 0 0 g 0 0 h 0 0 i 0 1 j 0 0 k
0 0 l 0 0 m 1 0 n 1 0 o 0 0 p 1 0 6e 0 0 64 1 0 i 20 7 6e 0 0 u 0 0 v 0 0 w 1c 0 r 0 0 s 0 0 t 0
0 u 0 0 v 0 0 w 0 0 x 0 0 y 0 1 6e 0 1 64 0 4 6e 0 0 64 0 1 6e 0 0 64 g 0 z 2t 6 6e 2 3 6e 0 0
64 0 0 6e 2 1 6e 1 0 64 0 1 6e 0 0 64 z 0 10 u 0 6e 0 0 64 0 1 6e 0 0 64 0 1 6e 0 2 64 0 0 6e 0
1 64 0 0 6e 0 0 64 0 2 6e 0 0 64 0 0 6e 0 0 64 0 0 6e 0 0 64 0 0 6e 0 0 64 0 1 6e 4g 6 6e 0 0 64
0 0 6e 9 0 64 o 3 6e 1 8 6e 1 2 6e 1 4 6e 17 2 64 1n 1 6e 0 2 64 0 3 6e 16 4 6e 0 4 64 0 d 6e 1
0 64 0 1 6e 0 0 64 0 1 6e 0 0 64 0 2 6e 0 2 64 0 0 r 0 0 s 0 0 t 0 2 6e 0 0 64 0 1 6e 0 1 64 0 4
6e 1o 0 7 g 0 9 3 0 6e 0 0 64 0 1 6e 2v 0 7 g 0 9 1c 0 6e 1p 0 7 g 0 9 32 0 7 g 0 9 32 0 7 g 0 9
5 1 6e 3c 0 9 32 0 7 g 0 9 7 0 2c 0 0 2j 2t 0 7 g 0 9 31 1 9 g 0 9 3g 0 9 31 1 2v 0 0 9 d 3 2z
30 1 3a 0 0 9 d 3 3e 24 1 64 r 0 64 1 0 64 1 0 60 1j 0 3l 0 0 3m 1 0 3o 5 3 3m 2 0 3m 1 1 6e 0 0
9 1 1 6e 1q 0 64 34 0 7 1 1 9 2a 0 64 jz 2 6e qc 1 9 u 0 9 4d 0 9 a 0 6e 5n 0 6c 3z 0 66 0 0 6e
0 0 64 63 0 6e 0 0 64 1z 0 9 k 7 6e 2 0 64 1c 4 6e 0 5 64 0 1 6e 0 0 64 1 1 64 0 1 6e 0 1 64 0 4
6e 0 0 64 0 h 6e 0 0 64 0 7 6e 0 0 64 0 3 6e 0 0 6i 0 4 6e 1v 0 7 f 0 9 12 0 6e 0 0 64 0 6 6e 1i
1 9 1m 0 7 b 1 9 1v 0 7 48 2 6e 1 0 1 0 4 64 0 1 6e 0 3 64 0 0 6e 1 6 1 4 0 64 6 0 6e 3 1 6e 5i
1 6e 0 0 64 0 6 6e 0 0 64 0 1 6e 0 0 6i 0 0 5y 0 0 64 0 0 5m 0 10 6e 0 0 6g 0 1 6c 0 0 64 0 0 62
0 0 6e 0 0 6h 0 0 64 0 0 6e 0 0 64 k0 1 6e 0 1 1 0 3 6e 0 2 1 0 1 6e 4 0 6e 3 1 1 0 0 6e 0 0 64
0 0 6e 0 1 1 0 3 64 0 0 6e 2da 2 6e 3x 0 9 2o v 6e fe 0 62 0 0 6c 0 0 6g 0 0 66 0 1 68 2x 1 8
n9w 0 6e 4 9 6e w 1 6e 28 1 6e 7o 0 9 11 0 9 47 0 9 r h 6e 1l 2 64 11 0 9 2n 0 7 c 0 9 6n 0 6e 1
1 6e 0 0 64 2 1 6e 5 1 6e 1 0 6e 1g 0 9 6u 0 9 fn4 0 q ld 6 6e 0 6 64 0 1 6e r1 0 64 6a 0 64 45
4 6e 1aq 0 64 1 0 6e 14 0 6e 0 0 1 0 0 64 4 0 9 4l 0 6e 0 0 64 fx 3 6e 1t 4 6e 8t 1 6e 25 1 64 1
2 64 1y 1 64 0 2 6e 0 0 64 0 0 6e 0 3 64 1d 0 6e 0 0 64 0 0 6e 0 0 64 5c 0 9 15 0 9 e 0 9 1l 0 9
0 0 7 1x 2 6e 1c 1 9 1q 0 7 24 0 9 9 0 7 2y 0 9 0 0 7 4y 0 7 0 0 9 28 1 7 g 0 9 o 6 6e 3 4 6e 2h
2 9 35 0 9 3 0 7 n 0 6e 2r 0 9 0 0 7 6z 0 9 0 0 7 3i 0 9 3a 0 9 0 0 7 37 0 9 7h 0 9 0 0 7 76 1 9
4 0 7 4c 0 9 2b 0 9 i 0 9 29 0 9 bp 0 9 76 0 7 1 1 9 29 0 9 bt 1 9 d0s 0 9 1xc 4 1 1n 6 6e xl 1
6 f58 0 1 43q 1 60 0 2 1 3 0 6a 0 4 60 8 7 64 2 4 6e 0 1 64 u 3 6e 44 2 6e 2pn 6 6e 1 g 6e 2 6
6e 1 1 6e 1 4 6e 2s 0 6e 4g 6 6e af 0 6e 1p 3 6e e4 1 6g 0 0 64 0 0 6e 72 0 6e 0 0 64 6r 0 6e 2
0 6e 7 1 6e 5 0 6e d6 6 64 31 5 6e 0 0 7"

/-- Ranges of combining marks: the distance from the range before, and how many
code points follow the first. -/
def markTable : String :=
"lc 33 7n 6 7b 18 1 0 1 1 1 1 1 0 20 a 1c k g 0 2t 6 2 5 2 1 1 3 z 0 u q 2j a 1m 8 9 0 o 3 1 8 1
2 1 4 17 2 1n 8 16 n 1 w 1i 2 1 h 1 6 a 1 t 2 1k 0 1 6 2 1 2 2 9 0 a 1 q 0 2 2 1k 0 1 4 4 1 2 2
3 0 u 1 3 0 b 2 1k 0 1 7 1 2 1 2 k 1 m 5 1 2 1k 0 1 6 2 1 2 2 5 4 a 1 u 0 1n 4 3 2 1 3 9 0 14 4
1j 0 1 6 1 2 1 3 7 1 b 1 t 2 1k 0 1 6 1 2 1 3 7 1 b 1 f 0 c 3 1j 1 1 6 1 2 1 3 9 0 a 1 t 2 1y 0
4 5 1 0 1 7 i 1 1p 0 2 6 c 7 2q 0 2 8 b 6 21 1 r 0 1 0 1 0 4 1 1d j 1 1 5 a 1 z 9 0 2s j n 3 4 2
1 2 2 6 3 3 d b 1 0 a 3 jj 2 qa 3 s 2 t 1 u 1 1s v 9 0 19 2 1 0 39 1 y 0 3a b 4 b 63 4 1l 9 1 s
2 0 1c 1s f 4 1b g 12 8 c 2 u c 1k d 1c j 48 2 1 k 4 0 6 0 2 2 5i 1r k0 w 2da 2 3x 0 2o v fe 5
2x 1 n9w 3 1 9 w 1 28 1 7k 0 3 0 4 0 n 4 4 0 2b 1 1e h q h d 0 12 7 p c 18 3 1b d 10 0 1v d c 0
8 1 19 2 1e 0 1 2 2 1 5 1 1 0 15 4 5 1 6k 7 1 1 fn4 0 kh f g f r1 0 6a 0 45 4 1ae 2 1 1 5 3 14 2
4 0 4l 1 fx 3 1t 4 8t 1 25 5 1y a 1d 3 3e 2 1h e 15 0 2 1 a 3 19 a 7 0 1p 2 10 d g 1 18 0 c 2 1c
d 8 3 1 1 2k b 6 0 2 0 4d b l 3 1j 1 1 6 2 1 2 2 9 0 a 1 2 6 3 4 1v 8 1 0 2 0 1 3 1 4 1 0 e 1 2a
h n 0 29 j 6j 6 2 8 r 1 2a g 2y c 2t e 74 e 6t 5 1 1 2 3 1 0 1 1 3x 6 2 6 3 0 s 9 14 6 1 3 8 0 9
a 1a f 5i 7 5j 7 1 7 2a l 1 d 3e 5 3 0 1 1 1 6 1 0 1u 4 1 1 1 4 9n 3 9 1 1 0 1c 6 3 4 n 0 44l 0
6 e 8ug h 1xc 4 1n 6 t4 0 1 1i 7 3 29 0 b 1 f57 1 3mp 19 2 m f2 4 3 5 8 7 2 6 u 3 44 2 1iz 1i 4
1d 8 0 e 0 m 4 1 e 11s 6 1 g 2 6 1 1 1 4 2s 0 4g 6 af 0 1p 3 e4 3 72 1 6r 0 2 0 7 1 5 0 d6 6 31
6 gzhx 6n"

end OperatorConsole.Text
