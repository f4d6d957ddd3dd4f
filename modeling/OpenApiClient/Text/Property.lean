import OpenApiClient.Packed
import OpenApiClient.Text.Ranges

/-!
# Properties of characters, packed

Lists of numbers from which the properties of characters follow. A set of code points is given by
the first of each range and the first after it.
-/

namespace OpenApiClient.Text

/-- What a list is about. -/
inductive Property where
  | hidden
  | word
  | mark
  | transparent
  | markDirection
  | permitted
  | joining
  | joiningBefore
  | rightToLeft
  | unknownDirection
  | greek
  | japanese
  | classed
  | combiningClass
  | virama
  | neverJoined
  | replaced
  | replacement
  | joined
  | joinedBase
  | joinedMark
  | cased

namespace Property

/-- The packed lists, in the order of what they are about. -/
def packed : String :=
  "
 !%4XWFM'?pW0ua+MGnUl-VpYO4:Bc=U~)IqyAaXs44]/t%:>,,y+EcBlss*E,bz:t52aY:^TVpWhFPj8~+TqmIa9L.LlH'SPD
2ki,nbG0.,2iB]@xXU:T37GFqSkp.YfD<fsuDJ~;8~KJfF_+SlM'B;y,@:]uJQ0mJ/:@P(F0P@(ORtj_5Shma;x;!6k+urFFCUu2
ZPi:L|K&/SoP=~3O_WPIy21coIL99Ze6yEL8IS@wJOCZEyyX(xGrSK@rO>o1C,;z'p:FXA*V(FCIHLYC5cHqH[5K*dNQ]i(WQe|
G!(~DW8F*=NH7Yav,Rj2qG65y6NSbbcTeB%-5'-xaNP(N=;^?3^[E!mHMMw-`4f`^!OJf6-hL>?AEoMLh>|9^6ywpe]M@'v|Db!B
H8`K$.8Y~'^K`C~Fv*RWTOe-6|,SYg4'aH?D9XAhnQk8`a!1ZRo_+*!oOdVCsIyvl%]8!.9U!haL|Q[h?%Ch&**Bo;O3nJgHlVT;
QmvQd|xDspM:,$sd%$,8lNDra+tb]ebU~-&^XGBeG>cVhNO=C6h@sSf(<f'ZU`so)Y?mVr3F`uR$i-f:tXn1.Kf)0@~J[2-Fs&
H;#<ngvGw6.6F>+:U/Bw`[B/S!OxP]vF:@z+W7:s415U]CicrWfW7!fztauVdl-qxOUXD)Z`bQ/,U/tBbA8=mo]-yN@,j_^1Oh
VlvBk<u:)|'8PqPpfmg1bW:0ELh6!Zc7wbC&.@%Wi6LFmGh.0czm%_GZoCn]50ZEKgOVu$Cx52(pV?OV5->3/R10bBdadW)|Anpp
O^Y&IwPi`?fF!9;mN(w::1Uhx'wd87|e_f95`w+K]J;#?TAJSZjb,BL6lr4Hu'#N$/BROx1eTq_D7E49lqH.gxFv-:R(Rv,[/Y!#
FZ;)Z7hYo2#7|;w=YBSzkn%$PctYfLw7)[xhnO!R;0aUNwI~Sg'Z^j>5rPzn8ACNaml9jpcq7HeSrb%bwQ?R1Y&MQAa`]$#t*
K_>rXcw!Fj$=ELWi]cExq6M_lwhA$Bb^b`Z[KbwkA]wE'2H3s]qVnpw9M_uFq?yM[ZTBka9T>OmZ*']l)(|nN%]s(<5T]nu8/+B
M$,3HjKZSPfx$fVV0:V9~Uvdxt_[d)G87o0bTV@|p1o3daWDLvJ^;D~<>yOu]rX!BdiQStmnL;$#G6T0P-CT/JN(/^H<L_huxE*
AxEcb;8m7|D5d*7RHS!APa-ya0:)&e2<-@dq:t>E3|~>9Ak'YYEa^Nw7Su*TW:lntZoJ?CO.UpwOE%/w2W4IXV,cH1ib/C`MxF!
V.V$_V2>9e[McC6u?a't4/Dh$3t&N|(|fmIN9K/zzyfd+,<)qs[cHbTIUj|(*o]3@VG%ns2JxoF5_=7$dL@&S5kb#Ph*+S4hnd
D^qrM2IfR'?@>785%fpCNR1scl#e$4hO9=Ih]`LjsK|8+83srkWXKn'7eMGuD$ryB7ESZ,zG#s_Jx.ho]D,>b.U69+ze|c
Z?wsr(ojbBogyf,P4W]Yea>>Q^qr]&QhGdo;TJpR<&Sm%3D#qOr*oNYcsUwwy`om='`4_QMFdd@r=13JYrN3g1jo^=V+SM_MhsX
Ecex8XYS.>nFjG3X^:|eO[Wt``ef.X*eQ/2<.=(^13A?bP)x;DyI,g1rEi5!2ztVww;WeymY73U8Yh@'tCm[I:w<+W/cJmw02q[6
Y]7+nz^9D#_=IBE`)k^s;U>fsz|H?'u[K.TZ+JLr_o5b|S`W(,gviF*X>kI+=R;1R+/U%V3$O4g#=sXWPZ!;PMRE^aSn3eL)I
Kg]%d7NEbi&oyYPSrbJqy0_)&$IRgoTpgolv7#]2n[r,=%I$_e)YE)9miQrvy;E<W+'/Zp3P6/s>_1B8*(`LGR>sJ.&w0A1s?gdv
9-zjCeYRT~*G$pgQuhEAPtB+1Hu:oO2`dfdYkw,`k6EuNz]!3%h]T+2vp|h|lwtNU`:WYU[HU`?`s8_;PD0|2#Ai,M(z9%@MZy;0
Gk9C`ga,$+sm^cFJ$:~k/5jjyjo]m4q~=Dak+d0odPm[rn&kI^@6t7t.+'g$#US_G&0|]UpIBZ4ao[Fl@3dtv^(KhySbxo3TW~Kx
7@<bYod('5Wf_cP_PI~5wTXL[iPY&xLg__~Zc[>(ilM]cAL$7oG8]F;vSPoh-lfN@IQ5_'8/l#NioKwb*sahA%!6&_H)c>x(/V6C
KS5,oU_1:Rh.~.Du6N2yr0uypT)Cg+/M4L#qLP,t@J[d5xTY5Hr/`vH-d?rF[=!6VIfQEQuLHSb@r*qEiU?.J8`Qxi-B_aSVli+
Bizc;&($>;l^OsIcdPSo5*sIq&Pz&12[._z(|q%w#M0WUCmW|;!d9ofb<#TUu+.De&O2rqrNJEQ]~<TGBSgj[PCqIB./rQq!CX
AqbSb'*.6F@a-R<m;J8RMUKqc#5U7k0;C(!)ISFP]vnG2$S#DUR>8)|M67I_'Yi_XhMy^UUKft4f^jImP'rPHrKn[YinP7).Z.).
Yes7L|vmVX9L]PdbMpY&iY7g-FVK<0$`r(33=yuHcL!Nd#X/%o1`x_$FgK`gNZe#pT4nM8N!H,'F>#'mqUY_lgf8/_;n!EYOd~&T
LD4CQ,dW9J[X+Cib[N8Jq3[XV>^<EZK0Y=kKgsE<1!.Ubfg-:m1qhL1_<;CVuedmO=iFE*^Q:PYG=],-5DOi)C<jiI#PyL:ET/Jf
77d3e^88zK?:FfWhq,%Fq/.#<Oiv~TT6Ui@M>C.p!]d:b[.wvwIXg9O<VN!;>D@=U>t8eG>h($As~Yt!!26UIJoe'f01>pb+H4E
Nh`L&T#7]8tyj#YpVQ&x*/QVemG(knLN2pD[[d8[~3g&v&X!j.N~*e,senV'?2L[#[q&w6;I6:yE8wikUhx1bHEjC#SjVK.5R<
G,rNZfr]aPhAyPm.Ld;wl*l&nOE!4Y5DEX%O*]r4BOr(zr)H@O:<#/(_be9oR*[V#_bg:I5Jv).a>>;WAGlB<Z&KiB
Idu;;r++l*-vHCgQj.ashv5@EtGblMzK:%2*y>DSP7DpaAClSavI%fmT&|fN^-Gui;H;,BOu(bvzpli2s?~8=GT'0;Zl`@syHmj
D*KYu1wmGs.aQxQn5f,x'.$OhbIyX--eONJRP<jG3lg&P^H-Wiec`9gO&z0T9|F+&J*(~9lkZL~'R=r.2fHpbZwT)x&W~C3t4T.Q
S1C4Y`8,q)+G?QA29H8j:QtfQc+:XIsa&g+(Yw1CZwp3G$?]k,LfSOUqmm@53DN'|<9Va9m&;I?xIPGMFS66l@/~;Tnt%GLjWTyK
LL!E'&WIW/IE.yAGBs8Q0Gp^q=d.yl&_.7FvoP@+/jZbG:ziqOao1Kfm,nW^u&i/>;_,]uSk(4D&VNs91@3Pt3'>&|&L&7VPa/
Pl~Gz9ScYvw1n+w$:L+]:WiaHI4:[B[3hH6#4ZHT2<E3aA3Ni`FPhVO&ES=yuf3J?%9D7U][i!#,nyy`xy~KuF9VWHRsWCf>O*D&
G$O*RnM)~J`o#CJSqRP;~LAh!j)e?;b8Yvq1:dsRBA1'sr#_K(_,z!x;2aeE|zO$#g83n0gaKsQa_fxL+LQNbE6vh(jH>j1ReSo
U|.|#JOWl4766dq>nqTvq~F]?0U3.O6j]k(2to;2@Vi9e~43YOJaGE;)G'rP5^oY%5]!$?0gc$7FH4UwjK&UB5!eJU.m<,623h>.
II@<&(!r'j2h;M|3y<A$'=_]^ATj7S*3FQAw'.*WGuSauFiJ%%0;@9[uj0hbNNF:P`J;-@y7hb!k^C@UgEh_>,=aTi+6CH/f
Iez&fj0hO-OrFGLUYrvz>3)r!S.Ij3Gm0(h(h^9gZCYlM>p`>r9,#*f1YoiI94f;`r=~DGGYSOSfzV(T7R;x8nZ`n'<_MBm`<Pn8
2~|3N)?<ThK?s7w`$t~R'W-x~jctIwpOPQl3D?&uFFy#%.qraPlv+jdjRqgCUJ?#-VmAJ)LYJx4w]j:H4(b=%[&mr*,P'>D_ku
R*%hE~lW+q&so#|2+#&Hg*blHXPAON|0/8*pJ/-A,=dAYOThG22Ph/2=iS|AFL?NSyM[wS]R03Gb.x?+jypX!QHDy&c-b9gxMZul
1j4m^Ov2jq6DY2,fq[Gi8bo/lp0<03@a~j5WR?ly:s<O>t.RX<brhFx)=eI_-MCxG!.ZDme81I3L4C#9EyC!]9wC`l6#^psfM[3P
MMM^:[rx+a!oO!lph9)3(4?[;Lm!(Ln>+fDyxL8l'L1<]]Rm^Uc3=-zoPKe,r~b%JReW@L+])2>-e-A;&-T`m5E:Yfc`i^UFI/v
Bc;ai|G*nFRgP')lU@8g|-*??Ij+OUG7K%*~?r7dS[OFbj4SjiC|b?<gyITG3?gnW`G8K>H*i;n+PGAtZ'z:B!MVUTNf@H>:%
I].=C<2Iy:JLdgC's*52JDT8|?/N/FZf>W#Vqwx~to--wgxmO6_g5l$IfYWy0?#IgVdx|OYd)wLEV%bDgrtDv[+U,d^mcQ(+vTuQ
JW0c]*o.+p;g;tFF=t_2GwPmvqQ'5Y5u_~Cet#fCiEDsjZ6K(LD|Ec[]EY1kjd7%tj.6'mf<p9$O/G.[L4#~S_BF:t`K@&~>64tv
7mR([l5:~Sb4&wqIJ@B]IiJ&]-/3^X2:X1[$]PBbneHu1#=fAN*k^Y;BSIWIn7Y=:9Z^q/@|ZX0,`9Zu?B`DG<^pmdH~%6q$
Bk'q:y55,rQBaEo0Ip/58i<mY8lyv@([&i(IXgdl2nTX,=t=*-CH<~%DaFIg|VbND*OQ*:]Gr%r2geVgzyNK@PK5#7i]Iji
4=s+[x=-XSxIpzF@dD%YAB&qK7NbGFg$u[2]bnOe%_U$A6~2eisc`<8r5c~pa!,;QgX8=YwO/a*,(/1G5%j^~q!`uI,U31$zg%
O&;#(?tMW['ZK!.I(hw-sOr%BDo>gAeBs_mnb*O*H^~G:h.8e?&0L64E4G@ME@o^X+rSE_`$O%u%8jMj'F=e|w~@-tR0zWLw$
Itro'd2Zv`Uzc(b<?#e-szapc+cWqe0omZq6es4GR#80Sf|b_45;+4,lRjp3FFEGN!>!A7a0U<yp&?>af;sY>XGV-z4B[!M.Ujr
Q'=C:Vl>*dEyG:0Di[^w`,-!,R%XyrdvXlx+5DSrER[0kGBx[o](:f?r`>^7JfYPFW4YS@t:=fv;<EnQc+G.l;bg4Ut;ea0bcs&!
Ai*0mr!Me(`NO`/||+R%cHOCqVsgnh.$`7Hwr+L&tack;SH4F,I`$4vnM+dpkWSTBK,9<.|!gJwTc_gU$(_d-ceT2D6@k@W*~]*R
2U%PCa<MtCwL9,Yi=b://~&@l?kx5cBb'hIGW!:HZ&9y(PdFu'miXSR'r8?S6V%CS^nsWLL_I-v93E&Ss^:*)IkK2G[H*|iyG.
9^xx@7ir_a#6&'03L0(*s*L*N]Qe+OMQ~m>g0:at=1Zrv8W<!;JbKQ!KWHUdp+@`yZ=xx+4qS8Q:[Qq69v4cUx;u$Mz/>=
2)`+n@~^ocYkVX.?,siQin<'b0-%NYR`4l;6?#Z$e6i|aXnIo>IJ+fo%xmq,XdoL;hu0;jccVxedEHT'(@2;<a-4v`jEmWrct'?o
7iIPD:tEY|4cM<EEE4a&+?Z:GSzmSzb',%Qk=0gtW/eKZ=.:SFmdYh9XF*T)~E;^EGAz!b8jY7)#kPwDwUpL4P$uMG~$*'+lK,
0`/b4aiEAd>gSH|<d>!e|9a[?LZfk*1GqjN^hZ-YUu*p3m=r!Sa25lK=RYyo>lSyHh?U`ephxo8n9K;KRP*r'#FF@<B(0%P<ET4
LlLrHaKS`,%6@<L>Fx_<u-JaEBxWcJ[AQiODx>Nsl!(Qz+RiQ/L@Y~>HrMzkBjm##.a[dv%'4gms4&yq7!v:d`k3bjfVo'xz[%f
Wr_N%YSH>w_a6CaK*#]WZ#rDPeSe^M]h-5BB0j#|H3:n&8V/PC.9Xw$Oy4hRS#BQs>-IGOokO?[gsj&bwM[[CA^LI4lI3fFPs
Lz<q+n^D*l+Thr<r~*4(sv@owO[?>;pjjPv=+K)8m^b'*U@<']n!~&0M,GH*~sp/QI`;S/p-ey2F)*vcgh&FoiT$1x^)UnhS2EK
Y=;3HX#?j)VP)k]?FTm3o|zk5xE3f,|-$R|9z[ziNo|^2lLPB18@PY>3#!2TEjJ?gA#X_e7RfK[2$!zHAL~^bgH>73P06oKq<
RrbuS8B[j%EGu(va'a+O#lu/h:z2=fZQ3Zp%`nW/H(^LN;l,z,Zl[NvVcIOZxkmPQS/Q!v`_p2hmRml^_@[iR?rfwYh'ZOHi'I
Qg&&(i]j4z2jsZ:F7D`J:U5PqGs(6<q^|!'jd`d]r[=i<53g`$45j17pS<IJ>ynB|4w6@sb:XBBp&I]>UeM0Qc_:|m9=:8#opXf<
GjqaCbLbNqd1ML^oClM>~feAzWj#EKH3/x%[y_:C(aQ9>ZLH`)z*w0B1VLX2Z&@QFif`MkL=P&W*=#YHfG;!aP7!XZqy]JHXTKy
G.-1>uU4^MMXx8i01m]8^F7bEilS71JG%9?Y]gnDJb<Aa/KRz;d;xxb+]??Nako]&,/:D*x_@b=Q)^db=CYO<'qa)|pt[a?;z#
Xjv!8jK^Xu^2)hD)JvZn'vE5O%,=N9Hs~*((5,j0]!aPC8DL^P7AAS'NoJd)hk_%y?<,sKAV=,j09qHU8M,Qq6;2e[Vlw+m'yX|$
N]p>7b8q:pT1=|$XZ'89Mh]wo|ab21;Y%&s7mt9lS7S](bTc8daYxn@KXCgbz%onZM3;EW$&nOr-e43?BnlE'YY@O#1?6W'ZSQ
M[dY;K;jk]b:p$gW,kB9jNE7(5p&-=Bk5iUG*&m9KfP]Tz|aX`Fm(W*wknCT]|']NmUTtZOsr~3M$_V($M'mkhey=9;(#C(29(sI
MIWkD]L)Md*+uoC#Cq~B[`~U='R/O;sUB]c'c(@)8=w!=QG!^>n0[uPP*3'L`G.MaXO<QA'%Mfe3Vx6u1)kGa|7#:y^N)1d<nmi
KjS$.R3kF>;1.bq,tD-e>Sle[f_eZUtV%QdbTfZ1)?i-1s2btxo'3[S|DtsN9$Jkt%l`)J%oNf@^f=aPdfcNK|(j6tmuG=F_1o
Ic%Mk4[yw;a18=JBk~*~.LLSCB<x*TM9o|<]=yHl&*AEMh#sEMXKxjmd?rFs_gLIcZ/J[GyeR=%il>#)ATS^$YpbG<N~m2Pcm@
Lb.Ze:rcBpQx~T5>W=TVw;xzl4Gb>8J:R1n2C!tp0XphhkwL$1S*_!z|Y<EFE&qjh`SQQW,L;a0oICPN`fdh?-@&QcY::PU]eI
Sx/)$Xx]jh-!CPW;Ofbv|:oG4c6u]z5Pp(5:#zv2dkqhK0<b68*m?J8c*mZ|/yh$~ihpfMG%%ew=],^BBaM<_!pqCC^n?rg)6w!-
YCE3eQg;98eP#?pJ7*WbH9)`@b~`3gO>FL!ByrtbpOXq8dBdUXA*b=/uM<WIxGM5?:~p2W?(iQHHL_DeuN>2PsQK8*QIE:dSd-.
Pi(s,L4HzBiLkoJyq_=F[m:Zi>+~RgksV=FYE9r#NJAwdC7$/b)GJE!:i7Lx0?`f14/MX*Os1j*V|KFN<Lhc,y([9T#hU[9W+s!1
L]-Mf#J*[Exr7-=Pcs$EAyZTO/MUpM>pU.ctzQxZ#y9=C$f7*,XpLgq?8fe`U,4jJv`fuffse-l#cE;Z5_$ZYj<`h1nvQ,'n`%c=
5oiV]2h~TYrh=mrle!:<Uu~v($9LHxI`:]?V^<$Tsfr28AD(LVT.Z(<qH9'n)PL.FTOd;gMoYO[g4v`m3/vF,o?0WsuY7:i5TOrL
WA!H^a;;AAvhj~ct#mBO+1(jgu#7^46Q3%w#&HOlr%TVmK~i@48ici]b3bIX3nAC1p@|IO[.Jspd[P[6Me*%2kL$C@W&SX%aBD$_
H2!=ml-|Pd6+)|3O]evCA)^|yWO8z#a9XD76HZ8U=PXsSTq210sSk[~n&_)->so`Wv7d=(fQf*L!f=Ex:uUv>e!R*7A5Y_&.w
B%u*8fL)lBb>lP#w:dTpJp*jsPh3kZJSDkmpxgcY9n]pR.t_l?^^RTc%Ip?U3_Mozr#ocPIz:Bio&s0F5^UEJ'E.KR-G3*04nFY
6w#-Wq`8FO1UKp$J?Zjas=yLQX_/OQBz+^c7LB5(%WJ&%O_My/Zeq)]L-|jv4;rij92f87t/y@8L/!L|>%w`v(ss%,IUvUZ)x
J'|iOL]Djtl&I@AY6gsJ%wSx4-=XV#aj9Q!7pIH`iQ3unp_ZIoupt)Ia^.y<,BgQ?3#pJs.yS.Up/?[9BikSm'IFK|UEL1jFlNz)
FQr3bv`p_dsJ'.~NX7c=mx4=$lDWS7`q[LZOS/vG'%5aK;e,_!7#fJj:X/5)_ni1Zs%M(9'K-Q7)BzFp&Nt4E-*rz6ltdIr9,
0eukDVKZTCzHL$1Y7KvdWwBTX>Di?K?g/O:j:s|#3zp$sgY$8)v(=9Zw[e?-UH:2%w7nCK,5+pd|bzsF/0;Ljv7Bkqa.8&S^%
FolbXTZ8H0[#gNbewYB*guhF,sX3L2O>K#r^+sNx4e3onydGcmuHN-5cj*t34VTo-@7pwQvNZM-l=kz>/:B+$IO=<82ONc?n#=
Vck):>`=3.t+nTG]X^!5_r^>1qbLXiivf95gdpsp1(;e!3A#k/-]Tk/@|5~YwU4GDh=rq^DRN@ny.:0S~w_~#XPp=F.OiHY+4?QY
0,Z;C-T=Y(uoCp0'Ld2:b_fF7^$,F9Gmn@<P#Twd`pcW[qw_4r;'@b(IrFYyP?t0IHPps[LIapupb?hChWy?cQGFMZ0DNv`NfLlU
JZ!|xEgZ#f=mTS.0z^zJ8+KThoR'+lC>l'|MIOIkVQr2kCSV5:~uHsbaf*-K(((9`)X%8L^`7`Bg?qSs&Fv*-7$!kae
Z@yj[/o,f~:h'~),>J[8XcPa<Ur28J`5TE_Qw`FY)Zmjl8&o/s5%Ktpm5S2?GiK0djYtD;G,~z*iH&gKdQu5:~t@c[m4P%j=.Q5
1|sSLB,d-6JnbmLSk]kC;Aacn0?TWa#[QZZon9zm;/G=k1eLVjy6;YXd/I,T`EorW;bi)F]Jw]Hq8F`/OaX:Buc,=TF0XeC3YmRN
21'%C^sH6'E<CBxN&f@IP>gu2S;(W>YR+p6~_0WaYD4DGV,zmAzRdP|Z|NP"

/-- The first lists, which are needed often. -/
def firstLists : Thunk (Array (List Nat)) := Thunk.mk fun _ => Packed.lists packed 2

def allLists : Thunk (Array (List Nat)) := Thunk.mk fun _ => Packed.lists packed 22

def list (property : Property) : Thunk (List Nat) :=
  Thunk.mk fun _ =>
    let lists := if property.ctorIdx < 2 then firstLists.get else allLists.get
    lists.getD property.ctorIdx []

def ranges (property : Property) : Thunk Ranges := property.list.map .ofBounds

end Property

end OpenApiClient.Text
