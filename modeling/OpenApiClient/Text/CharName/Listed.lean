/-!
# The names of characters, packed
-/

namespace OpenApiClient.Text.CharName

def packed : String :=
  "
5Ia]vC-mk/XFvcKlBu%*fvKRSSjLSuDO?paK5MO!ns]gr=uQq=Mo0:c.PC>)-y1<v#<NmBYfYh?Bdo-!AN#B~:[`-rDn#ITN@U/
3~n<,v4zL,@xu5EOXVF~B5H`-OxK+&zKF?dl*<6w.*o|S-cjKCj6#(kLEpe=$P6~+o~KV00$skhqw7<Koa3.OpkL[=:/Dw8D'/8#
7S9nZo2~*WU]WVLW|pBqf5NsCPMY^Avh75KRC;tZY|6iuQ]PG+`UV(WWXu*Ll[45NDN_SU_qr-JGxoLjyR.+.KoLwp5b.4hn2r>Z
4k$R)-s]*x((lt$KDsovjboMoCv|!z$S/TXUOnSn;H`J4l0.mDDyt]N%1~+IBng/>]xW:]Q$w|Q.hrD/Gj0-gQ_&GQcuk?FF!
8w#q;Hdbng<gL;d2JI1j:@>!2mu%4Ii!tmEy#Y(RC?HL(2!Cg&UcJTW#EE@jyA7;Or`pb|Mvdxybx|n@atpmp)2+j@CY|kW's;]t
UTO]Hu[~GS#^l#S'LUv9%*A!';ie7<MH-U(ri6*u$Q[a4*k*$fP,=Z]u[cFL5*S5P7^hzTCtB3gC&15<)O(NleRE!;E]Q:s>^Q@a
ABL*N_K'.i?$K/`?pX~rhJY#,85mS)4,?SrKi51R!0H4m's+<R-fF'jan.B^(MH?Yf&Kt`$%,s]JsNpM[xHBzw'VYXxP0n]?L$(
VkKnKy[JejdTIqW?JM<r5Psf&zsCg!#CC',[~EIIyuydHU~.tNa&5RQ6,H!c?ZQIxGVi(2Q#9~'/df#qU]nAFWCL0_fCa<H|fz
M,p1oVu+^L@m#u0y>Yy<ef1^VehQV1:P!I)j-xn;m97&U0sAV*|>(Um_eiP8[@)/$>&R*6)GRP0kO;]C/FzhIKA3:tXeU+i/$@4
Q<3(#k()G2.YEJ?lh#_4N-7nX?@w~kU*=(MA40'h$zQZwA.OAoRUClsca3g]af?eL11it|o2v]4JcniqfZh-sdOLVb<OJ8SNp
K`vr8O4r3NxmyFyLACU,CbbghTBZ7J[t0rdLi*FB`V~&nyIpNEm?7mL>)fj!f/>lJ1n&rA[-+h[lfv5,()!Y[Hm-'O?|ddh[S
3kg%#k_He3,?D-,$F#z(?!e-k#DR>8Nx@EWK.SiQ9>4-0)-P_s;j7*K;$EERbIo*;^Bl<G<Zxe)z,$uVod%U6=fMmyE>w5k[C&4w
QR_TW~1ct-,LE==PlnB:F#*?1Q`S?Xt'qeTWn$+tgQTN?y-yI5)N$,dB@e?>U1:`^9uKeqMe/~o2yvq@m#~;;)C:)(_6yfGK5!r
Id%Y'!7yKmx?rI`#]VN'6KW6Vx8V0y'v;WDnUlQ;[~j3-@T]ZHSO/!z2R:F*(.=1(FR!<Nb?]r``FrtUgiAz?t~p_&TeFGmi-GBG
J(LJ4Pv)A:]3`t%.WoS$MCb*.(iu9+j0=`j.xYAybuE<#b]`>2F35zJ]g&@>bY%Ag7M;FoYf?_aE$v2e*&LG&~2:O`eM83KEiJiq
2JNP@+TOlU5n<s?qRz`h_S0?%*!tx,_/]R5'Wx;J[6zVs.T6P(3=fymNAP*')#jFBW9hz2AV~/'*+3s|x8|Z7OgPg/Zx(#:8C?G3
7<zevsC;)Vg*Ae8w*rbtyai.2q$1Y(1lv&7A$s]?D%U+Irt%1>ymd^@hMebGFDE0c%88qy45+nH::k^eYJMEbAIrVZS6C(q%x3q
P-Be7SjT=9]CluA$=<|7I^b0^;)3)U2NFu1.*aHKepAZ~'7Nse;/wci$.lzo#t53?,4t,b=94#?CF1bZ_g':Qs`cmL9~l8iFf.
Q'|ldL#CBGe(sftMgJAh*Y?5mtbysdy^HjBsfo'~3ZURCJ^S(C6<N:Twn1wc3Uwf;M~<+p0~LK^8ca-d`xYM*&0!IaEB&:R_=&#
Ss-CLALTIS:c9|(u1Fb6cOa*@!Q~DhmvIjKwOXvR-l-pD:24(ho32|Wypi]a7CW:WNk<,75wzk[JEzbx].fDSA)EuitkfW%PbHQC
K?V`Ovie[C)ig^Il;EU?*K96l)kGF9y8O+HQlTB9v;+vSuv5iGVSp|59'+(Rot58jlE8VEN&y~k%<0$NTKM(|^8OD&UF.13k!nP!
Tmv_dy3H,W4P86Bq=,`*4*TB$IH+W1|lp~=@'U)axLjkD[;0H'l0i~LeB6M0Me5@R=b&UOYZnRrN/5UrS!X/.)HFcdzE5X$)9A*
8^ItuJqWu=9)hFbQQPY4jWQbu[n%Gg']3$J6fEH/^1uT8A[9/E+[rJ6Y~`PKr6oSzR~i$^llab':PU(VZy^=HNfOp|ezA`9fKq(p
Qsf'F2szVMh@ydcr^lnZE&W9S(>w=#dfk/i,Ep,`|#o~G@KS(:J',/o4oCz[(:M4y0&Y6m!>j;5HraHO&AnL-_;o.g%rTq+x.a
5aj4[fyO1.PYjmcd`nI*(*Se3WZs(6-9(Iqu%k2SnJ%h$:?Ejhf6=,Pqc0vVpG@X30'n]M+Ql%l5RFyFrdh'SCH*gtI#mcQZ/s#r
S$]bk+K$W.g>eb^9|sZ,<5R?N:j>KoHD%S][nTY*R9?~b&L2Ar?qfLFp!2C!1cD$uL`EjK.xDC52ubl+]T8UUL+XDV+Co;Z,^+D
T]vsxVM]Y-[XnZB.t3<?5j5_`qg+?XG(cp(R|?7x~HOWqm-W~Ym|=adc~d8F3YtX%ki|oUg*oY4]YVR>N*caUOl9x4/?kx!Rf*,g
Grz0Z&a,Xm%5[mh2hDf8<lFx51cOS:/hPHD_2aWY]KVj1OtKrS^TDvWDU2^i0K9PLo'Mc@jmq!tkB<;$DXM$GRFQTQEA[%jY
9?`v[fy/1|Zuh@&@l^#]%!hc*_tZ`_zCe=ftAE&kb2HVfBc/b|4upI8;PF#7XdD2W~+).#IQ)9f=o<.4n$9_37-^~WBr3BYs)cCN
O(S'!ZR[Y>zOU>2&G0f|3gNaD8L<&#6t9b5HZ$uj1,7TTRIgV5_P3W3_]hkmy3A$Tqf*rDL&!_*LNWru~n/!x-^|pUeM/x
6e.&c&&/QnZTmt&+T>'[eO2E19]rDSiaY-Rm[~bSRTk_$N7m>m?Jjh6rIZCOiJHIgyl>+45Lb050Z#02xm%>Xfb9t)JRG)2NdnAz
9=_?yqP*l35a$^.tDEa!<y>eAD&Rz0DZ>U$kkyd0b?_H)k]xFFwqL+Elq-Q^$@D[HN?]Rg^`L&wUJ#0Rk8?Z(a9fb9qZYFM?KDrm
Q8Uai.&<z)XEa+tJJ(.8>iuYdw4ntmPjE^z?^NsWUy!G.Z_7A*!jF~SjZyDa,?:tD.KhD$8y5hR]]M:>F@g5:o7`ZA:_R21sH
7:--&11IvXfDkEa2JXn@0.uj;G~br^FYL;rfYioh|C]_K`BhSBp2n3gR%FGuOBJ$I`t:HUsgsJ)]B&@q@bZA65geXzZ&yD+XaP+!
1'h6nA.VY%*qx9'6pzWn^#W5:y|Fu_d*uAYoGqD[u%:0;p+N;J-m?JVlu(nmST;ym]cVb)#Ex9,0M8r|!2&be39ToXvLf$%x*7,:
X~LQcJ]M~E]tsNwyCfjT&LHt4T~Na~ER&9[,jIz|asqhSfo4:pcH?mGJD:_Fg'ZU7bL#k;^3t9bnnEhtw5$FZk;HfDI*~F17*i6,
P[8Fnm3h|$Y?Z`vIt'3jFSf&.R_N,u5n+/:FF4-EL6Vf!re~/mE-;8tX_I#f)40MsCABvvw[f[mfy#X]sm~7Im7grqn/Z+^U>!(?
3/f7Gw&1*Q/vPyX=D%iq2Q4t&`z~,?bp/4rSk:Vr2).)O+~R22q(vUgJ$AM7T~M4?@b;8xpw1lWY>1Yz]G>|qW(Ig<Np7&)dy1
Cg,m&IaKZ>:T;nScBWe&@Agb,J1c]3,kS8[#?f0fg%_.;:R>?L)vVUf6'U_@a|QxDvT`6zbG?j`=f>Gs=Z(G)zpDD
Flu-'v|p['%p4mP+4HKz0j_3B2O1ydcW!9scxFx@hn'.;E@YR(;:%#VFeL)UZTLswpI@=1jO7k])`C/!S.wLXgW,[Zz_S]/2]r
YlnBEUCB'+*03xG_C1AP=jCbU<+rWD:SkD]=dlvx_)9Igqe),@uY8MWH7+;:pgM<z<kF'O_Z:@!Q^c9.8L^5:VV]$*WWvlRG!px
1pl5Z+S1dXqypt/sjsttN+rHPz=u7_0f/gq,gHp=h1lm6Hk;!R/^)A4/v.L=Djf~kg]_e*G8a!)uCu1#@M`JPc4`EtGtlgd
J%kx`;*rx|BCocs'zgA4PDr1v@]0!kGmg-A)|LGw&)8m@+j|dh]D,2Hx*!b1Ke_/~x|M0w5,YsGP/F/O>EvzI[Uszjwy
I&!%^p!,w/t=Lr$aodplX)P;+UXPo[R.w'g&2~a3shK(Gn85kYQ.Q|Zu[`%dpAwrmE=D1qwZ5o,|Z4K_j=0u9]I6R`Ky9oiB)yK/
N#M3XO<()29be8~7ZDFh$1Ig.jZ]yltfCwsuSXFvqOt,?a;Ocx:?Cjqz'+7EK0R2~%3ZLnaZh<sBAnK&>Os3R`F:tl[=9<=^Z']X
LD''zYs^#wsbhH*YKi#@G^kdP;/<>:zA2s0+m0*u2Xc,t/$d-(FouXrRD=3UFabR]ywDl|/G(N_#+ODF:UWpmkmu-Q[c8cBQIA<
Bl:JV!m`204&;A.=|)ys<blOA`Oj-IE9n>yEl&=`t#|d7K~Eo*jL.C8yVfa,|3Y]uubZ!96D6]gT(_2@:[,a:B8CdLc<W:AC!zMT
P)F@$dcn)V(5f,:`>re%h:l0dR5a2GK(TJ*&$Ds^6kT#T|3psK6xQ()+Wp`2T8+fAax5z6/w9cuyE_WZMn!NZ[_rFIHz0S.*B
L#ebk<BJe&'F4[swb)`Bs~4uMw:N%;JNn]28x^pS@4Z>H='H?x^gyG,C1c>%DksiM2FdWvdr[D]z=,d%==,^k2'8rk8d!],RWz
A!bbKk0VrI./UjgZ52M.j/w4QPWQ/Tk)!P6o[Z%*wW2jnV_Hl:]~qY)Y3gq<Xn2F[A4~oQ=_sX($:4`()|89oX|v>]z@;|i-`b#Z
7@S'Co.2g?||v*<~Q-PH!AU+i1.z=#d]7O1tjmTlk.=+0ikTI=k|MVJ'9)3r^ogK>Dizd``b1_E*^ze'vPu)_C$*53!1*[Y8!2=&
P/V%3ZF*o)P'QaN!~^S2~4/GY4)t)QxcNzn8piV2Q.3pl8t@y+>SH*6:_=uAN*0,VODros4(|Fvmx+ORnwQP`Y#3,Y*(C1QGLARY
Bu%r<PP_2PK9Za<$WY/NdpparBY=q@l59pn'm*5024U920C'1Fm/%xtU5GZ3nlo7r8M.|p0J/10Z/zmwa6Yi+#n!gu0l'/n#5e
0ngkWSkLwaMj)KlVGP|QV73kHOEhI/m(V0,pIo&ha?PPSmRT[u?b&FqDw`h24][&d_vrk/=njW3=aTjEz_WDk.>hX'vW@d|U;A~[
ZFsgZstMXdW*JB/vF4*TgGUg$%^gk%sgDg[^u)7il$d9:Lij1`4;4l|W[dWE$6y5h#J|nk:x6;7_.<D3ykgf~aE$<#^w]Xn!h6
IusA)oSLEL)RSZ*F*|j5L8NOUk95XdQrf,rdg3a#X6E[E_puR~agg=4a~uZrV''Zee6xh_`wP:rs8IqyhC`6)JT?4UjY-
1(b$[fz=Ll)z,mW&EHnK</mflPAe6jt<]zfy2Q!FIo~_v_q;u/rGdD`)Op=)f]x2%<3m!n*=Gw&:thqz8@V#8=mTzdlE:608Vk05
N1Y~w~X%ZF5=_5QwJwlQ2&rxVFt/kd!t<g6@snR8Po?Aqa]<>I2R6-YM9QF>qylAGAuanV@Iq9ry,z.i~Mgh]B5vj?1
Kmmshb!++~<UQ/?rkW;NIkF]3zHOu~^81+Oa<vb&p70w1T@8RI8!z_BSWA^R5bd<9GE>)~ki%+Xj;D$,]Xj4M$tPU_#G!=$7NZq
R|eiRl(kxFTU6C(J+~k'BTdJp8fB_TUA1P]K<=qx1MUcxJSUpzJJM5Vkf_J?nI+bjcRRyf=$'dG#)i|_8]NN2!ig3_j12X&JQ6Qh
YiHRoBedT2Ppfi!$?+L<Llm|[IgpCzv*ZN`ITyD:m</:nF0!8J4MFN$_xCk0y;ngPH8L-D,:mf]qkY)KD.Buw7qTOm
9'-/#$svr(?8ozu^KGp4eBrV:;%qD<%5yBj:Q-pU/U9|Ur#Jo!ZEy[p-*Ul@D7&YNwi*v+&jlz=eR9Hy.,!M>cD`N1%c:%(K_/^`
79~y]8invo`+f'USr`8?^/`PEP&*Q])-|$*#N@:&0S9''je/yhI|sjj6p`~6E)T(G0v|BmPo0%My6d7k]9v+fo(;5uBr,<XT.'#
1%L8DaU>VK'Cc<kJPK&/l83DxM8%Yvq|pF0dfBAO3~`Q%)&|(,ohw(a&S+^/y9tKE&%Dm_i]Kzdz(kNtVJjQ5(V(y~[`Ma~(t0,
Dn5b)GEBZ#Om4wZ9bEV8LI]@=tvzmq/=_s!^f6Ynv@C=Q2`^E|>.Q[kz/k#81VzRF>&A:pu)Yvz6qsQ>B+jro^aZ8>-:YH/K^TDd
Kz>NHEF4*XuR~QLl9KG-K~|Ti3V8OG`-?hr]uTM,'NVu'=$&|,n'|PjZh,X@-r*P-*SjHP<X8uy0~;Qp)l+1p4lj20Lzp&x5t@
L,`:Pm(YVzoh@|:l^ay3PN4Dob.a8DaH%P;WuE/mUGZw%0<-JdM5mP'Vvufjjp?6'O<iuX.p-8PsRA=]|n*EH|w3Z0:7FwF,EmD
R,S+uliXDqrjhkMEO0ln]Km@(A>84t0b,WF]R$rA8b7oTN%JG`U-lZEi.,/Hg[C)|h]qB+3c?WHOp41%A9/YAl%6+G1`UMuyCefV
4Gi/p=Ng_5;a`:z@fYV8q>h59wVb!xJwxr'Xn^Cq!/0j7ZNs+>|Y6I66QkY:a;Ks%!Ieo/wH|PRb,49Ic_'QOs`Uj<V;3,pu
2>&~@!LJ#T:8z@^*NTlL71jYNioyho,KEO5A->rds?FrYM))co%/Nv5/tr'q8!':l<RLv%B1Uri$$dE(Ju|f6-ii|~I_2PgO
R(]tn[MVK=Rd%d|ch<U'&u<4@w@Eb7&JL*cDF*GIgr:g>22QA+FLr6w#hy))#K:CcFo(iEok#xj~=0%>B?>V2^h(gvpzoL$bS6a
U([rp1'[VO2>-EbTKSL#b;a1^GhSdfR+.51E*c2<^AVh(qy~xz5*ptN(CxZT-aU?g|#x-Qn2vx:Rz%>eiE|e*Pm-kjv_dd%8
Sb;l.XE$=tGA8^uZrev90VRKIHL|-D8QrZHCuRD%Nby?3_0lz1ilwyIW-i6w]zT8`dJhAreOPI8X|NlW.#]c6$*9Qip],_5bM~e
O^F2DDy]3aQF-]?n|e9j5pc<'cv#rbkdq4TfhHsAu$Xg+KqeD-ru2Yo!hnX:?!Eb)BGY0YtWC._f+d-)h2OF1KzIKPQX$h-hU
Bo&d|zpzLgzfEsLziT'j*:Hquzr)O+uZ7$ry6<+Xs3+E&BtH60nS'v2^GA@gI6Z9sW`0I7F-YE$ujVG$+;ZD_yUmdce:K`hhA7
5*.#cZ0`I4rE7ZKJT-<zKc&Kh>U]rM_[r@QEisAIC%FeA)-rM/%F!Yxo&A?.`1<?|cHW_!N9Dl~Zh21#3|_S?A,AconSvJvUoRN!
VlLn#9#frY(3,c^L-RI]'EwUD2=mfJ0R)a.tlI|Vup?H7f3Se`mOhVA*oYi&fpqw~P-Y1!aXWWAAa:H8nUuo:B)emceTiHZdbs
Ob!;HO5t%^9-Mh|:l7@7pSf,m4Yk3tBWRB?b96l#.jj|=o^,vj&>.Ek*8;t8,4VNZTI1(~BSI6u~JsA'C~n6o.UfFkH:KJ,~B
X)@wV4(.-JU<qc.Jsm8N$Kj[$nI8RUN(rvne^3Hm9vma]qOmpCSkqrh8slW/,,xbXH]GK=y8(/,+k$sR?(#TD5Tgc_Qh^,0/i9
G-dFMeNMGsD@Lhee_`iIGf(?P5^XGw$n/nhPGfXP*q/mVSIjZ_XsY3+-/OFl//,EWp#rwV]tlLd6j[fi%s]l/[5AS0P_qLImWEi!
CIQ6Hq76?z??+pjL.jK#u_6|wM<8(owaiNsQ'c!T18t`)S+(.@P`0NAm^`<t]SgA-1zmoRj$k'*^Br_&hHx@6P/BajA`eYQ
3|x&yeI9&-zh8D15AY?P9<!x*du[e#(hoH-P</>@2c;6Ev|>pil7VM*<xiNw(@!A;,<#$kqe~OJ8XZMj?*4hyJu!(lrHO-
0|;(-[)dr)~xVFzQ1#MqJ0qQ5:<69e1cgbUDG6k`P4Tvbb=[z@v!emJvbe7&j>gg:/;ySA`z9PKX2EV2&wTcSPX6fPn*+lA$.nV3
8>jQPQBl0Ge-c4uX.PbG_(`0YL&@B`KccL!I:l[42WZn2NXn^A$2Z:?#46>DnysIwWl1Rm][jxuP;BjZd5>7a&.-'hn.<9kNuD
Cj,Jh&(XYc`6D14R'm!NBrHi7Y-?S$*f:RLyLQo%KdKY'fD:T$Eqw~kPQ,:m+Ynh@EaLib.LctD+E!lDev]817''(<Kw6>J@a[`
8v=0NVy)A&WJD?|Aut_7Co]8#tT6hfCS|)G-fQ:nyPJ>ad>IgXcrME94*:.g%fq$ge'w^?3^x(HwT^wuWu2)c^|1^|yz?o&a'7A_
BbBZ.x%'6VPQhL(Wk)qnbA><][i+u;E*U84]w.r-t>o(FfKz?~@0A_ztwTsL$kt?v/^TFR;#Lfp1'[~@=ypOH:1:Lz||.]:O>
9<*q0Q80%)z-cUs,9t%?%`?s5S?tHj,mRC#4Y%9PF^=(:g<L;.<(:0wOrkWZvfODBi!oKXMrRa>.B.XOPb5%;Vd19.R13a`
X[x^^rgP~S&A-oZZ5MGoF9@VyV]M~DtuB^pS41ThyPV3ZIUyRDX'EB8r[J^p=WomoVfQIFv[Ra7@'h%)I_DT$*eLV^LtJz4(:YL
A!-go/hOzq:WvN4Z|zDI3X$:$HQ42Nk$clJhy1FnBdo[>s2[pJ#3>rSp5`_Is79;8)K(^UM+w?`o<B*Lcik%gGn(b8Z!`'Rrg1Y
P)6%tby?Q>@walr?ckh#khQ&7|`C`Uxx/~S|Q6$O*:m?0#uu2;o77Q>|xqz3<u8W/A^(B)@~3*>UoXEbN|Ea9Gqfq-<55qSQAj6
1+'PjiPUQX?HpK%T[14v,&eY!eVbKobR_eaZ`tm'raObMmYm!j4x78pR4tGxsCzFcc,(/3P!<Vss?zHv/n.D<3fm+5bZ~T?>CHr
M>!9)(MAhr'%=%A8Nvt++?wV,=q?j(~~9xZgJbf+qw?M_pE*v_T&8W`=?qFZOR.jW7Jbr-G_Y,dJq>1l)(1CE?IcWiP9#_x|
Mk'q*wB.;!;`7eWLl&dD*'qi.[[~g5=uPvTJ1e[MHXn*Wzu>SmQ+00SR[OYk+wqGXg*&6u):>0t5lwePNT6i3q*.*c5HKTT-C
I@%eNlc89+;)Y@>a_lrfPWF^Rq=l9LB,fHU:8,Ki*I%mjC5gAaZ=Kfq*1`@a+-bE>FGOizHQ_M1n/d2vGDbE$AQAe~[CL~PEv9m9
BVtb:lJagpxOdHN<*-.QLLp&Wu]o!x?/fFk'=WTS96-I5m]p&OjX_>B~29FcF[+#r0Z6VrmjEip&vI~D:`:D8xyoidHcp*!2$fd2
Bme`gCYd%4rD/%+AiYj)-id=oIDEmRV]Q1^,I0`k8h%l'e>gP/S-gi*o5M*Nz:K8]n!Yn?n=xS@xI=<%<)hI-u7$$lq<eW
A_mus~_2L4$vjZZN)vvJXmcul>uE4G49-GS_0J.S]H+jXT5Q35FnRse%0=u#LgsCun9tBDur`Am1$iG*AT*9j5arE5Mu<2
R@scm]lB+3e'TYjtpmr)@)xyT8Ln!T%7y|9z*XMYa`mL@mw0%^v=;L/cbn:xyu+2Ln|jLyza,S&k_)Wp*vl$VH&.Yhn5/u$y|Jt
1b,+w?1TwZSg2x5xmCM9:fOo>bhLY=](cV;K|yv,qO<[4syAvKB<'%=-T+'r4l;Fmw@8m`rS+l<T!i>WxV8_4zycowOEg/~fq1V`
1BC!6<q%U4(E0?40CCttoLTU48=,/a]8q$vFknl_3'.:A5fmCJ(v]23kLE-`Y`FoyT_+70V*.U6x;aYWgxRVUN|k!6Nq>0y'xL4
W.c@OSUy8'G~[mX5SI%$a=:$LuF$].$-Ax~@7#5lxW/%8PD)$PYdND<a;AQ;R>Co.dR~!$52vFy,ZBDJTr*soE8lS&9A#&qequ
Yt=,hQPH8@;f.chJ&/(6t|=w_|B3S'3:_U_PBld8Cc2Inzf'tJ0k@+]:dT@hG0;ecxVBKLmNi6g*T>>ePG]2k<Ar)umg`1_NUY'>
Zb3Vfcz;SpYj+:d>6.0K*WbWY@L[O3IHOh(m:zR]ovcc.y(WtX8~^,5&(3he<F5>jUfyYJB.Nk:l%rPkX?OIgedMdgRYd^Vh;rVc
3LyE[tRrZ4TwjG1hH<E;'48f`4[U0R52Z|b+uFhRP]Ck`hR[_@?=P6P,'|L)C2p?/b=5o;Yc/s[Pok-)7bfS5B3;TW^bFWo9'WjT
WtSM.Xf*[^JfEV7##=fFjz<5/.?tGC!UP%T(4lckwgagQmi)sV2.dfD#Po!oIA4N|dL92,Y^TPWJVGZJIA!L!f1hoESdK%CB7bf1
BNR'z9-n2pOkT4>Svvt2P|>CnKWwZtf]?+B@0g=$4-]*)9U1nKQOUithy#<cV%,C/!EP3.`cFpq=B_EOc8t6WqC%v;qu7~AD%fG%
7Z;WcOr:4EtZ;;kEM>KwH.Ru#r*b7wPQVk.WGn%XrK;7:KwP>XqbVM[#TInX(v6c9qj$'EFJsnNh<.x;]<oeEU3J*5`[-w/[2*H
Vtp[IWIt[+OsEoYG;=Cc(`pTF%%L.VM*KZr9Up8Jcku=+aPG*:l)H1bx,Nw6|2ESl8cqXd*TJ8<,iN<WvGX+]SdrCm?;lG7zfwn
5rA,SghP_=YBZj>J@'/0<iql#Ih!>g_>7[yfs%;&KU^PGEbSiW7=(X)&UV'`%x^qFUqJe3A)'yI,iUNOfjr#L0-94w+fI'Uz8+F<
9y,9O:pLm'(b)_ldd8Hy@&AE<)18O1=U?.iot'QF?=x6P#xe,pp-B@6K+NP/IZTqxhdY=vu2(Qegg3remI**8XW4zZ[iH;AkwC!
6'P]Dt)CG2%4Ap@|eqevu6+C`+&&)J4E?b@|L/;ya6mLo=h~A`X~l=FzqQ(=@SFT#=E._J_0xLEITRPI^zXEkw9^91P>Tv8^Ok#
9)KLNIWX!3s(m1'3j'xz'w5VN!A`PFT=Q|!=FFo1;5c;po2>m<|F_eB&Lk8`,,SETnC@|lCK;hX(KLu0_kH2zOu+N4]Hsw
Gg:tz@=Ee<*.*dr$=ym9PzwJ5N9BjsV)m|T?7X+x3/NeE`FxB>yw:KcP~x*mu:cIf/^J<4,?gZ~Cb1K.w|kWz5S|wITC_R'$?HGr
URB_5IsB.7T3MCkbuVM]3AX2/A<6*0'JxVh#]=5uo,Ul;&MQF,urSQ:718,~4(<S<N#e-PU~U.AB7jT;')dd:aYQ(W9G-JtsvjK
IjdvtuIy0?yhooeS%1UzwTCM^#p/Hz&(M2ok5[0sI:>72chT97mX_W_+6|7rE_4MMZRdQZcPhvEDzt6sq,FWdq?i(rnJI=<l@
Nn+;BY;,Uo%/=lDy,W'HMRiv~?YG^nL.hp7p0SqfNc+>ZrdvX*7Co>`IuJ3m`OO$7A,WpoQ<*~Qf`LxHAX$HAL4LH+3egb[AAUR[
VqH:Hax556Kbo>&jH;v?)SH/L^zmIuU4Y)qv+yzf,sE*MRm.BLGu7PJChv*FQ&QP-COt)E-KesGWz'nOm@Zk+LE2k,jr&329o
Us[qVAkuzE]-lj?]yrJX'XQ|SOMD0uhq<ScC~NQoZ#17I^:5Fr+F#m)6&ju9PrZA=gL1#k@w_tTRSz5>HX%5hfqX|'CqQAWpWg
R+-WP1=s-;@0G-!J&_K#/qc0]?;tyoBJuDxS+E-OOYRVMP~aYH'W_p.mB6Rmsg$j^!j$|UY`5J5L7[Xe!wLPJ<F<k:U'MV[Axy
5o!z<xq,]Xkx`l5GI52WgzLIZ816A#o+h%%ggdhW1zF:mcY&!TfeX[.gmwxJDd(S.??v3(v-mfQ%5eB,No[|x#kzOP?C524#_c
E*?C;'c@6%8(Pq-|'y!<9kB^.^O~b:z^zq?:~8*GD%2ClFe)qpfiwT^%j[$,yo',N>mjY$gdNKv~Q.ID'OD.nX;q_PM&UT8cNE-
9vf?VV|jc3Tcb.=W6.nWq;.jHZ0:CJOn9[w?xr>Q6J)B;PA%I^E5p$XktK)P1p*0|.hc?Z%2;0WvbzZiUOU~O[;OO0h)rhezAs,l
Iz61cGXufFo'V)t&QK!%u`MaSP,21B?gyyj7AN+|lZnyy*HSweOJ/7Q*5P;y-Cc.PalLJ#BDWOy+1[h()'/=J*Q&u<iT;k3lS
Q%xied70#A&[bI$P4ZBH/Y#nG(Mb<bAv[3!`w5J3w]H_Q[q.,EqD^+n.gp7TE9u6TN0xD`iiO#s=9!XP2NyMdcQ-QIzi[&^$Y^Q
Ex+$-&.Wt':XP`-[_SI2.6uHV6~#Xy$LC^JBo<_,8yLA0ph3%F8tLUBCStM@sNU9U4jIhRodDFBP/S&%WLtIy2vt5Gy)j.
G`ovre^_ZJUlrFums3$,lCb]KCjE,,~Ahs*UjV77~tJ+q*Rv+.i,tj<w7*QB(1mIHOjLeCF_UW4YN*5X[3f;%TkyQ,/E!X?s13
3`:(QSt:;SVVDC?!AU]67Yn#A6U2`by6Xh$V=8kW/TN1kKXM-Eu[HvPC[wvsX*'VST`htI+U>Zf|!%3ukU9YR/8q%?Fc27;S'h'
Fjqe<fd:^h1baW3>|~Q(YfPv&Jg+A$!>dR8Yo'5kDavQHM[[s|X8nppv#SeB%,U&MrU:0WN61>*Uf%Z%bysN|6PP<dYWgN)~bN<
G*^69`-)3>$7=Ef9*d0kz>P^tlepiJteF@nDB@WB^NQN'%!e.NIA1C2$G%xYfJy<mO[B6l-,ZO!]]:7v3t?mKuo%7qDAGD~i*K2
1md62J>pRcO0GBPYj~5_D)JyHFI1B!1CU3TJ?'#Z|%[e'+YIVYUX/(Aaq/FTHYm3h4#Nj7Qe_-`p@o%(wO@N(`dilW?mfmq_CrD
V(@*z[g0v-uWY8t+4A6%M~+My_EwEi!bYI3,?tBzFf@Z.p%3sJ)`H(bH9biN(mJ'O(mKjfP063iz)nd+t9g_A#<|0x@jQiO:V-A|
Yn)]A`,Az?ewY&6wqMUS+Ce$r@c9i8VmrcR?9lio)cPm0WQJuhvRh2/G@hO&p*$$*24l[XJxV`|WMcs>bOY5B2;0L?NI8dgwk:
7*%b$w;%;cn*zv<yc67bO+[BdGKI2q9+M5<.DW/Js;*E<#AdC6jWqHH]8$^=f>o_oT!BKc<MEc-txJA+,'d$Jy`1Iw2SeD!Bo:
Cgj0FpJt[laq0]-)o39:@K|wOYA.K*D~sp%j8~9a=nuN]DdE]xz7eZfGwd::P)1CI1))Snwx%vOjkx<$i+lI-0i|x'v5qX],Ov0z
7-bVJHObYSd4^+wDAnVq5fYR?Mo_-rMTD;vGaOEV7-Q!7KX=/f[c'0HDvk;>XZhD8xW4~OUQCJ];1s)^3+7rAJMd<F,a=e5K&5+x
5(_Q%;c?u6ib[1o4yH2%bcer<g7J@(X<bKUGcV^yi@/!@j>9(9R!0alXKN?B&@hO~1@4;=Gd;^JgSWz,08zSQjbJ-=8zsY(*`n,I
Wr)IDLhep@Kw3v$2cqV*uO3mTST7Jm1iD5htp>l2#C;?qt_U25`u*nfy0H;;MJy[9:w;=qOl1W5Bsl<yMWgGV*v)XhI-:<iPT]#=
PO%f(AfFYG[l?uLz>_1]mOq^gQ5(Ls,ZZo'OCBKJGM]M9b(P?(w50<<58?JaJTDm6=k]TMun*rw;TwF~$fF.A[I+4uAy<GA?V|
2h-Ih2^8-mLjQM/S*.)vq.%gwgTRcNa;sUzKYcT|Y`;GV>>iF:mpa9%KK$*pykB)BrR^Ih;J4wUyh#b+nDkXZD`VayP4@7<IRn!P
4brhy6ni&b+c.)?S(&uoTuBwX,+zOoq:192V(R`athO6p5AmTlTw#5PIW;`:7V`ii3')H?3GY;jD7vxjYXr0HV:Wl';f+tjCQcu@
PKS~J>qE'y83cX6YTT[&M5<OjGU49TW)(IW`aj]1Y_^-dM|N|l|xtke*k6XCoSG4nnal]wvOl~i]JJ>[.`V`/nsV>vCo42K,Gglq
ZpAu&57>GDGCB)!YDfe+m^#@hTM'pu?IZotMct'fMAm~S#;]W)&T(fEsFpT98::2tu:W4/7RMd*e#3F*@.i:WGqL?Wi+TM|,-
5%,l3n/#(rZ*Bn9;/ffwy/]p@.Gg/#~^AO~o3kHd)*W`F91+Bj/Qd_l.^%>`crwr'09jh^~i~<A6%R'mD|K(dZG1_/So9^pX=.Qe
QZ4e_t#9X32m*;(wB`hWfGE?%!l,eyN#(A@%pd0;fQ+id80mg^p[>lI_=%`~+l'|69g`5T[gEv)U=r7!0mjh)=*I*;F+F3;Q4
B]?-hYZh]Z:kJua*DE_j^stFxMQVg3y>o<eByjEq0w8?Y~GKT0|f>l;8K'hIBiGSqYy/#n+4_COD92mzf]!A%c7%ZrA3rC~w
A*na*P-^Zn,:Xpssmb!:^FCejb1]sIZa66924,.<Y-v_*Dxc;7LE`f@K)G(a%N7zcd?`>!3n_=?V.z?^vRE#<b+b*7B]J$^.Z<2P
OP>buNR,k4wJVw4ohsxKu9i4CL?I/HM_1wVgG7A,dT)q.*y?)/z)Lp^?6@R__xF7n6U|8&q?l:FjeF-74HVT*hW:Hn)j9]SlZ
E[t@.MNH#(x:`~fD$dGJ!Jb;Wi?v,S)%`>|+1gdumxFa<[+?9n1%5mO>G,wZBcR?$AB5r^d8tc5rb2^m(BBxqB3*^$q$.,AC1/jR
ZvLUdaG/rBa7+S-:~?Mi[~1#+iRU(dOW_Fl*lY~~C4[7#[RcYA/cdXj40zt7sfA#$g[m-t2,nVL%o!/jU!?#@bT:`L26iM]47aLi
1MFq[lvC'15@/Gs)5#9a>n^1&4&K00@d/s0G|oP2_)ra|j3mW(A(^j!kBU7ZBDf:%_J/E>V%!TpZ/#%GnrnE_|zY/WNch(k&^6z
L;rAn|@Sk`WOcR`MzIsGy*GTU^yiY^mK~+*nz#bCY6uEXSZ-_9D8@QVnLhdJT<)6VFRHGa6Bvk&emkR]^3Dfv9UN@
U]xjpl|]w-dch3u/9?`x;FNyo*`b-)&<0d2N<8A'=MAZQ=|ZinKJtlb@5tm^44R6Jk=&5M+$3lWaUs,[e)D~UrK$18sS].V[`
R$g!69-C)n)>x||Vd[eXQxK'%3Yno`)!'<;ZP4qh9N_tdM;s@F@|9RKi?Cf(Fqgsk:bz$Zza>Iypzk*'.tVd,IjyRx&yV_N3
JzxwpE:QsPx98lYod5FeFzil/ki~#Zi#|_gov1Q<0)r.X9`k|jL!eO]UM(Q2]2ah1uT]F.)XEt440ZV.XYCxM_$0UtO3KRD^drR,
5M(utW<O-2Y27WPBy0J|-Db:3@2ll&zk*:<9vJ(`~j[lqr5dq,[jiJ&pfiiZ'BS6HI>(Wa>sp';$l0x0(G4(v38xW;-&TI-6;,8(
0/2KI,0_W,9kEB+,U[u$sGN~Si+2fDjq**q17%KF!>w_.e;Rz-|;;-R'dT8m(_[ghII`57+w8z:LT0lqgm)Ri^YfYSjkARl-9!$Q
I8s?;GV_?J1'`a:L@arN//iaNN*%]J~R;G&5[.][/48%?m/^hxD55?!0$Wbe1xe,4KG/h?7r~u;[bGwt85d%kRagZjAkw#
7iu<@n/|#QZy~_vfT-4Ezf;;D|~dz[G*I:Gc/_TFXKz1.e3XD=k&XYV^mr-#.=B/5G_Gs?$vDd;9q):-00`>'q?kld@stQT/7
G,scfUQ!<n_15v69X[[C1k2V!Z&`rFMv?s$S>C82|@G'8;-.3$kH,.CMdBZQZ4@&(-L^B/Su4;Dtfhdauk(jpMb,u!X=jI=7CA$1
K&=9fwS=WL8Ab:l5A6g<MG^4e5JK4=4F;+]+hqhw|`.r4-q#/(t:Te4jjrz~I7/^&|vXu8H<wiVTkN.6ViEbgf/u8|/u`&-tz(OT
9:oTLJ#fWm`U@q8oOOb@]dWeagvU,$@yC-83,L>A,pJhSJ]ABDqwl:Cgn7z>Y|u?P080(n,=Fs5exs.8-x/4B|w+v!)tYM1D)U'
KhAk*x22AeFP*>'f2^%8RoL1c(Qh.0tnItyJ%HSkvC|RZPC<:lN(<uQG7J>lZ~PbUWhz3_h)BX>3k3YIU2hAXzG|DbfpAq$w&
6n&iQpeJs-~f*QDc8#RD|3&,(#VG4`j:jTp|^E3|wA5@/-;Bl!tDvPPkLCZq!gVB]%00+mW_DStcz3rHFU;C>W#&I?veQMTecO
Jscl^$v/]OBaJy$uUD^I#XD#;fHO<@YM&V~GH77HiAwX$H[bt&]|2w%&hNVYlE[%BN*Iu6Zy`tf$dkjWr+3lA@:-Wkh6v.7
Azc[:tREsEoX>0D@P,9%FBSvjaps~TjUNb=*x:Vo0YzhGB?U)ULZEMTYRN-o>7WE9P04'+5</%U=$=h:^/sEx[`$,r%o=gr8
N[`habDmmV0~J:&^g?HYfq?4Ss9,%9#$@c@V-WrAY$V#EV/Rhg:N:q=+lSu2!_FoO'zV0FNW@tEYbjz`Y]ir7E8jQ`
Z?y#v-gn!+@vOK(;lnG[z/K6N+!ok!<xmMVwyt:l=c0-]^Ku1c*~@Z.o6H8&_z6G03PkUK&M<jQh.G;C~26.z^#+%?Y[fm4n?O6I
V`]tyzion/>99p.I@C[zB#uM>2e*c(1R::JN[N2CMg,>QGWrAP:,v8JrnF#OwBwb1c9V<9$mRp]wS?If?rI%W@<X_2g6;4pxEYz
X~L0rqRn!op&X>i9h,QzQRU!rx#[5Sl%Xnd,4hLnWkW)D$H3u!ZCJ=e~s_HyR#11;[vkU:#xKwjlL+dK60#Q0yz_He.uw]d(8-(F
ZDl`ZB-_P.9XJA./d%aA88h?]2):sFz'`$=N|oQ5W860i/)UPol$+My]F$Jg~aI>/=|*m_H#[<S?S?S4E2n$Bn-qUB;ayNaMGu'^
FqTrTBZ+dm*|Qiw^Yz)N|pg[#L[M;dU%n5C+PWY~YpPoBk=<pyEmr~<0oz5;,lj2xxT]&D:.D.DSTSy(OOqJI,HF%`#8&GC7VM+
P-sI8PgcuY9A,%6pgEl!,G0b9ca^T0Jo=re#:!I9~/3|Y>6@_4q*i[13DO*HC44U?q[N|3Z>GHp^^e^NqTPaJ'3twz`%rL!x@d..
ZP5Drfha7j>0PeF:Qj_K'0HA)L;:5av,MI=5jE.ry#|D^*J_~oG#@w`J'<HQf|_R[fOZ[PYqx#lwvI,4M!Ke~A/wFiW'/X(h(Ifl
G+z~>ZgQreBcA:!:[l7eUrBMR(b](Ich;<pd^dmx|[V3WcY)%/hc-(EMB2s<.RWiIFdGCTWL64>'4D4G2FOY9`#Er6u>[9S#vR=3
Td|gk1&GSV)ltBd>_nM6D9ilB2gk<jlQwDfuf=(E!q3WV=o6V+Vox!k414)ii5Q^4mkd(hPx,4UoWi@BT8)g);-rpO`-,l=~_dt,
KaWE6aA!?Y>iJbz(,DR_4n:L+!tKZK+a0ybC?ctr,R!+Kb4V'DxZqUFm-Z-coIc@'[v-MCe!NfwULhMg&;nUwib#/Gp%[$2T
C~w_vVJF2q,Bbvt1$t,FQ`B@GE;f.b5dtr`DtrJn6Qq)c?zEyS'QyK]rMd?(eea7>u/V$x`Np@Ss)>tl62@4EhY.kX>S'25Uj?H&
IfJKN=oR;$GLi>g`hM#CX79~T90xFE%=wj[HChJz9KAU'rY^r=gO3BkTiu2pTpAAi]SB`g+r*`tt~_V7fqPv0'2,[TjitvE)nf8]
3B`H@n26U$M@?*jyF7l=;WbYs%dR8'54I[<mz#S/8o=uT=M(cJ;pH[+!1jRBpqDnVV|+XaY@&%W[t-=zoy8@*Ha|m[F921G&ZbqW
BlM;09^S'_U*Z>Fk:GQg-<YeNM-RKiVLjIe:c%aU38O+iYU~/0(FwIl85o)M78VPihyXhte*udiLi&L[+gfV[fZhoHzeQ&wM;AKI
QVP9@AvM_qcB)-K2-Y($fK7UhqP;=M$*bRTW8Nz_NA[.^A8q%IH-'C!By,5L)^%&tW0[ky6jm'EM+%21R+RAhA5JOMK+,T8)_+
Rvq]I!2p*14Pe>B<h]MjRY1WP80z)4Xl=Ksp8D>[3'406J-UTo3`54%F=sg|2l#s?hEiRF]pd;05_*K%,4P+VCP`$,^uDp;Npb<1
PWz&>zBe)zH;$zta*,GWGzM/|2xYwEiF|inlYa*Y=G$;%AU$JB5uL/7u'|O<47dBw@&|n7d=E;=<H~#^?G^7v?z7_+pGklT4TbW
4@ygK`]z8>Pb)Lc.!UUKcc`s2pPh>zyFYC|T8ww^8#m]=o^~):EmzA9Q:Gy]+PsA:^uNoiiX:DrY~'9>`;jH@=edJ(o4thV)e
C|+)'uzsXw`;z_QZK|unz[bo8,05TxUSQ<0=iNK*2l'VO6?m_c#^izPz2Y)uMHyf*k$K*LNT>y)ZyGQOoOcS$YO<?|4O5Me
Bae]muOjDytw~8tAn:~@5t2&)Ydsrpd(ii,)xm9R1AevYo&3fMU=N_6=Y3b,42PR.!X:x7hLRx(:rk;KTM^wQ|&$SZ$Tm'`3
8!_dbIkzGS?PDvqENI24?~9@uw()%hk*)vfTcYXjWn)F<-seo<p)^f`i2^&r1CoBL(d|nD~viy)DRHNTU^pNavf)$>le/RBa(Fc@
W1&j.,V?Q>Q4qFf$K8dHO]t,m3B~`?w/$6rL5k^=MjU]aU7EnjUtJ40|4H*C8yP]ISAbSO`NIDk&.u|_<5|5ze|uv%T
T@n$.)qrek452k47LXH!-ST>o#wF]jm^Z_cJCAv$=|j)D@Pfy3UzdM!3K:e^gnAe]]&la/5G8md>iV$Nogrx@(&SL?@a3ZE0R!
M/r<j429pr|!om,ne]<B<uEKXJJ9qoBwYjssZrk%l8&:y%!cM_YTI'x*f&8g<vL[[_.<8o**Y@IthoFkp1~7_AEN?!8DAq-,!SDc
F7!#olQ<]^)-^2Sd$=%4&2Hy8LE02v#PZrmps65R|IU:Bl4>PFrKXb`X$B(_E%]7!#tL#pylP9qShJ/gH'&f`Yk?=~Iuz?0Wb|
I=vuwFy`N#?QJOy;/fd;;Qq8GFU*2;2rV18n:z*u/I;uK2T%;zqFZjCi@_g)UV^L+vgQ&AIz[A,h3,yf+GEH61l99~,S]RqnR^@
Z?KW.5IVrC6>n5ey_4yuIm<vs$[oBEo`|Z|Mnv:XL0^2=J]gTxA2.6I_bf1k=B|!DBOlPP*!lTX%!^/qvsHg<.b?J~`J:E@tGz!`
LYu|'x<Ml;O|[iHF`X;n)Ssb0K+~>5XI-C^)u4T3#dmy#EJN'4uV.`5n;sG('zw5Aktu~uB42ypBx|r7Lef,FU[VI04QTvAXkU(p
5h4|:j`x$e#:Jr0.@E^N2OJ71iidnUWa#]B4YefO#vNcN<FH9y;VBxXz_p_eNem54Vnud3[7zaKIc.cLqmK9A9.ET)Y0KUv5E`(
Lwwa(%xj0YolBt>1$Jlwh(9<eBl1$y%StS(eL1J?:czw3KY~z1uAG?LkTFgX`%:>EI9w(HWHaO=F<p5ff$t/J6mk()c
B#,(ypv!))#XZC8nIKy=Hbf.^%9Du5w3yJB'+%LYvUwj`C[4tQ8T3A7$_Rb.vu$Ok@cJ(@<X~1>OC-ZGCr,no/P6vh`=|5&B!WIM
2ROpK.T>b=!>qmz+S^Z22'@|ua,MsT1~R$|k`d:MH*wP?9mb]Y`#u>$tx9xa|kQH(][&9bPh#0P?)*~62b,M9oqk.&kdmU,
8ypse;M4~Wxj79<r+mxW,$5[(9f*RxqJHYQKhE?]Mh[SR*=0uN*.3v>O_!K4ThJgmvsNE%OV9&Xd3x*sOZYeiI>+|!j[,;X'JLn:
E&:7i6Rpg!4N#G]_S`+>dRCkEJuGFNdoM/pDHbj%I;~3p,B$:q0@:gxHO2YqtB]Ks=zFM_^CDA1Pwt;1qsJ6|4S6g0sty#57;%>
T-F2kB.cNVK1F#~CdLU9SRoGB+&:~,OaaD+ux&IjCFoG(25@*0)T;K9~y`QD;OiNm97~<YB&0l1l0R:p,cyb4QRgpGkbW|'C%Zj
Po#p_KK^0+H`?qA`orp`E&a+lGVe5@-zzic--*KnSzo/GIh.0[,u!Z4Js_&ou)cIp/'3^W~*/q[/]oHG`H_Ag<z#Ldr?%GG1^
Xo/o3r.t&Hj2niU]iIXUzDt>*u%tcvOzbfY3vArw)=_DvHX/#8Kna:D]divAddfrb2[13%|C4otq8S*?y$YL`~Gi2y00QU.Hguh
GowRpvw~^d[ib7kI`3pWGqm/W[C0zjWpU]q=HsDsD/k]OvUpz2~oR*KTF3_b[`)>zM[12rU~$=VEkT<V*Ng4a|r30rdV<4o+PHNY
BZV|V.fbZ>N!sJtij0X[(HjS9)9zL:c4%!2ud+`er5N=A0(=`7=O4J'5x<9aH,PN|vWjpLc^/3Zl7eP/Nyb-alkhwRa9#~X29%
Q!:mVUCI.hk4*4y2!Wq|FNpRo,Sk=*!GCqw`GP6*^Z_YM>U'!'|M'-s)9`nR/|>i0wr^I<_.q:tI5Ai6Pb6?mJUb`|n'l_VT|R1w
4F3UIj#pn.t~ZnKF6I3/1%@A_lFSn[6K@L6eOuOr+~NQH:D!Cd_vPx~CZly;i2|co+4h3f|h!G2Ea5#c-B3Tn0)dy-~=#DTx2Zk
C)QaTEn5Q?nXSRl7j:xfsaT#j$d6k[`elUAE`glZO-kQIdpscSL,a7Fer7~;fOVP4.LUxNx_w9PwOxelCOVRI'G`Lg5rx#
7d'>tr$n$yNavya_AftX`_=eQAnzqt>7Hmj*+bndDQ.)aq=+X|uoP#V%5p8`KTo'oH:P$?,.K]w~>/X:b?UFS3;.m3>-)kd-RAL
4/2tLW;?!u3]7A?BUZpP!`B#6~ZI8V8!%+Id%k|sNMNlX;ufda#v?qtABU>K>5rMQ,$#'.<da7]+-n7=Q=gS(mVcz5Q?L`K>~,M
4oR~HLz,eW9vAbmb~jfd>J/A`9x+u[y?j,hj;[<Q17o|yw0m8&NAVr'[rx=c?l`!/)30zC/3H6*_w^2`acw!q~b67W@4nffx%
8sp|3>0h^[9``#ep//q:w4BIj6Vyat)-*BCvP2QC7d19VtO8e$wK_cw)+#ZGw9W>@lQt7.;/GwQ|pVTOjkZ*5vP$g,rb;L8aU$A,
XP3rX_Sg=:IvHYDRAwCONx.|');qB/(3YkK>|uKd7S/?UX~)BYex31&Fy_U~6:^gH@DzVf]BCsj|2Zs#r|XQvS2GK&UBuZg!Q/=
F;k%XLsc`dvUd1v(<M?F9$]YZl7:JkA:1LY>U|DVq<L^W4G@aH_#xFL[tp>.eDr:pIg^SYu@I?,Js@NU6qYi`]K_]&&
Egkp~:[@@=8XCOJFRP/Dj1~>dWqA,^Wxm4&NSZEYub8.1)M2]Z.@yR!7,j0VDMa5%[Yt>J~f.6hA9%e-rGA1J*j4a=8jn<|5wa=E
RfFgoI)o'D@WY2>1C;_N51m8:9k'[nm1cXO]|ZQ]a/<pBa3^t?$ZzZfwH%>6jV[2grY;^&~9RW3!UghW<>UhgJ,~i5Gc>Lb9j5
3d#Y_D-?yAbJJeJAXUx-(mzhD[1c?+iB8<T0-;G&]>r>~B);~4<L`n0DX/)If8A`OchXF1YCmu2)WiN90u*qo!ln-s.sxB9I(0%f
WYN9XP!4kpnQ-ybQ=anDor5]BTvS8,&x)9V$_``Nau>y.&@WEXV8)[T?Xi6|ro9?0Wj%xkTiV='~YujTxsdri$AH/Rafy|XZCg
BxptqFXcW*WaZb3,;P:FlgB=Y7LJQi):dkC~nTy~&AC>oHq>TWDcq_jp(BWnabN>9VtE~J)7,dnNG1`<z4h@<@VQ)+n&Z6l)=
Qe:[/S(,+i/ChRM`Y]ktdb>'RiFW>$qv')Y-LTt@UEY+x^ns/uctp?~VPRp,yi80bj(TGSVPv_qTu3i`%9i(/0GD5Mr;xUs;1tz^
YL_dt`PA-5I+~ovWnsA>XG/;VqN6Hs@Hwopn-)WVM60nR0v6sRrU3beXCFB%O,pNCy_-n3=+rTe=9]?X3AlPvYv_M5l`z)~UxDm$
FjoEFxKC'P!_A4[?V*6.*QhZnPatQEf.pT1,OB(#FVa_2KJd[2NIvS2@R((HfS<Jvy@k*OMhNP6$WN8.81Hmt1PvKS._qnyG_G
U;]E/+Qa%H$XjNd:<.]3g141ReV>YvqC8V1~gx8H-k!3t9q+<A1&xRV~:(a[x^5iD47sU6zP-Jrw;>^@bXmQ>;zN-@Y29l)R
Q&t<,u*&3b4]GRBA<-bly3>M1~ka4?SSZIm_@bYUho$8<;7$:GYu]s-F)*0$/wM,-q$.e`g<ps$*u%b)]k95a+O|9^LKR70
Xqnoo@m(d6`XneW+:V>jw[Tj3l%OS07v&nG#o<yvgM@=0I[/rm&4)UF9cK>Q&M~e1~Kh`G6<IV9!R]H2)I<`3Pr@2Xz3PjTi8u
X@^bFU_mfVbkjGD0hBn=t6+<,5b|A=55AEZn2KM6>lIp?LYOBdA[wF/Mt#Gp%:=u,*2@cE<P&7TzCqnxQd>`0d@K^s?3PX`kQALw
D2lB,~WGWMIaHI1R![&:i+[f^?<<t8abMZ7W+b78Ia!/MsFYX!^qL7q-!`Gqf>thFRi3^Ze>(lpfLfUh'<dLcfad|g[/'3?Y/
Tp?'SgZ?Z+Yc;6U[~Cjp3Wjri@)KZp/qX;BFFCA1!lyJh#fv#a-[NOe:W9a_4Hx&7L.HB!ISzp*8A|`&~S|3+<Xbf3#x|W:PKf
M</fm,<k(taU0Y?nu,ItTBVVGzZkg9t2?+;sldLF?GU?S`;F:d;I%KlI=s.irBdn<Ou7da;n|CuS,#I%c],v+~.6!u'KU0uMce
C=yn&j%.,ZP*qrOqUT@a]aU&K+'mj51;q2-`<#L/:0I8G^e?9|?,`@TeT/$Yqf&*,#Qu:lX|'oLtU5h#DyjZa7UL47*-Nk8.El=C
5YMpo;`([b+_9K*k.sK.ciBXq*KP|f-.(,Abit:3WZt_JzCnquC^avulP2f+BnY7y[R)5*!C+9?mPIb2T~B?;frv5Pj-I8yy4pc
Qiaa5N9O:M^X+u#/Dl9Vq4g.8rJ/lDqrwCeADb#+0!4'G>;):U>#1TeL8X[E^k^(:I~'!1Xd!XXWfVt$1)>(DTv7xEnz1?q-#^
7,=-R:>@m!peS6flObt9D274ZxCkH^Ahis4zJt-LW@CDC$?lAPm4p|8JQO$jf0co(Pwd%BDBb,-3&)c9_)vvvqhO@b3:muopWX
Egl>g*-upf!V9aU7,L%R-W775,|8L7yh/X8ybuJVu)l8(N7W,;@d$!A5:N$Z#d*c1f2pCn_9,u&YE(G>r1h)=!)>P3T0w.M:
H'?sj|ik5xVrqAA|>`of<C%*+8oYJuwm#p7=zSy'm,!Chps(wGDZc:#t8d9>a#%$UbnE|w`bI1k#z?+isv:X*_KUv^s4o,%Zg<gN
T<'clNYlcGu9:&SM_v0hZdal~edz+(].k_=|[~ZaEG5O+Q(P==U1OCH/T:a%8azAj1r2ByTV:;$m^3u-N9N/yy*wi.22ZzUP]Q_9
Y;9+KL#RFMsHUCSSIf9>Qn3fft+fu0w:=jL,/yumuZ2(zZg-qA/?!j(hXGo0+;wB<h*=dY?TLThAS:^NS[K:b9[!-Ce4.8e2`3/
QvF8]Kx^T(,Vuv;rTHd(qghPt^g|B[f6<HL:zr)?xvK2/b.ZesHDUv&7%ziV'Flx18D#EBKHs*z'-7y>CZUT+YS8d$8;R#V]%yT
Q?#>J5$T$MQw8@Qe,Q.Lk$9/<jtt37y4s97<[HaPA5(?u1;WXR?|81L+StVnw9gh_EPF.N;#'J_;Z6dKAhhwk/q`s:0&29d1L1U?
L9n8['y(AuTvgOv4/TRXCmCgXl>!w>?z[#w^3XJW4b7&.dvS,Z#Jv_(L3D$9[&se`x[4V8C&||_*!^&*aAysxprhD*IHe#wS)B/
LdXizD7C+N!&jg_W_bwAv+F7=!vXH97;*ySW<p.?^Z1J+5UC@^rh@ymCLSiG7h<;z=3YrswP;emwFz69MIAa+KczDw3u[al479
K(hY1n])$YPI&yUH.DlFv0RO!K1Xs!0py?7,0P;c>9yiBj(0P^0_69,kr(`X)*h8<V(6#FrcmvumF-uZ9Mmh[&6?~W6i1
9gp=jbpp.Kg,D)>V(n_vgHZ(j[LX[W^WL1[PIEIlt@gIF,Me$uJ:u=F6pRadkthjk;aHS9Ur%U>#v9,HWZ=ER%pc@Cm`rR6>d?qH
DDfr<B~Tx'Bo`~]=:NojlBbyEV6IImyXAK!smy2:c8`kV($cqd[M#x>l-8C6PNtAE-0SCVe`j)wVmMky6Vp@nY.z@X-wQ^NMRh4B
8pVu0`&Zn8Pj~x1N,gjF7R+1~4*;Ur:o)tV5sAAwcSDopf8T.<-6F!gm3?b-026~v&fR%?0$vOgw9yK]2MGjHlh4uipNqhXb4G(>
MY*`(clWSc7WUoo]3-iYMVcghv1)Hm#XyLew$h6(Ft;R!1I+aWE-WcV6?=.Q35NI:NKtkVnQ)MNyL8@0$'LZ!r/xT[>3?#hs?YT
Q=v72Q*8B;:.IQ:_-Y'LC(lpxIzPIg@rSFCz#`[,k|D0phC;5H.6C$'8y+BMQ#ys-6=WyPL9Y*DI5W8*lwvoPiOWqjRFWzE(oVZa
KtX`lL_pS/cBzm@rW7W$x]s1R301R@zZ`x;SB_2f~a)CG>z:$9=P-Nd);WDZw0qg@z=[pYJAXEqvt&@Tdj2]lXrspeaB-ojU#yh?
D;jfdUt?Y1ZKWv=NpE!=^5(f.iTr?Y_PUE`K9'CCj~!e)73G0bSxmTDE1sPSO/$8G^70`>Ey=3icQ<:.9nyVp_vnseKsbM`nh@
DnvGx4f^LRtXua1,sQxC|W2vOZ,5$-_sDe6ki!&%C??M`!z&]79Ot2L9vF]B#@kTP.7D9VY`_^-foI1;7&]R.>C7wH?|nYr23l
7uarUZ.9+B3fM4(3/-gz5P'LF@]g2R$aaw8Wa+Ni!nbHkIZ5qmR_'Q`~M9hq<d%iMb3Jg|-l9]A0@ATZ.<y-V,Km6gbzUlSnP?
X!#p&|v]l$LDcZ4kUcC59|m+ymD5vQsJqKJ+2RyhPPmW?<bFgR#Tt]hz8>auj-9U!.P>=3H-xjK3@+cTpZnPX,4NJ0LRt9
O.a|%(v3+-,-Up7g,r)+*jWjWPy?N,&Qs~BGVpNM(3g^U*X^*?v4FUrNEpWkD+G#_gYxdaRYW7X6-3A6Gvf<c5Y5~%XXf(PDyni
9uj86tba4OU$yX&@]Y][Ud8x7'F`7yYu-YVGFI6knPK!$zm'hZaiH=Fmm*Di6q4vCvPDiY.&c[#Z:*ckA^[UerP]%FcnWqYhQnD'
NkX1YeN|Y]t%i32s(f@x.ujM!0,WT;%:Aph<LHrumv/R'Y:|Ziq1uQ/'d:E9g>eJHkVaf|620uq54tcA#_Uv)40VRe=t/Wt=j@,
6[4byrl_ATbQK8X7Pm4<W~14Tx~LnaIc5tU.BUUN@depUTT(MS/q=x_Y+;,BN]aap9jwur-fm''I329gCY@9//mz1gnn$3=&LVP(
OpbiIn_bUE~@M4.|xdm>=tPtyDa<MC,Fn7xxAkqZRcN#Q/KwU6~pQ@9!uth!TuGIW!||b,WMvKW=o#~%.'yMH8WTZ5r9DPuS
M,%-<dlQ~Gs?&PpkOnz]UEE]_Br?scg|2m/.~N58u2qNkTR*Q2w0PIuWK2^rLf/9W[CP#7UmtHB2r&n<)hj?tOJh5)[kC-
1o--#ucY50nVQlz9E~Jb_N2xZznsYL3:K`f3XeGDTL2gV55VMsGx9Qf<?A#c5e.NB=kxwWs:o&gyfUMEbIX3`M]`NwsP'&rmDSmg
S^m:p3CqC*R0^.55cs(UoqJv+Av~au=~XMVl]vgjuCX25|p*@8C|X:7>.2iOPCiT1$G'@af7Y|0Z+1k-@L`;RioN_I4IotCGSC>!
D4$]olicKr5MsXT2Xghu/lj6Fwvyw~6&oO352'jUX%Wj45%(Z`%OHUmP..:l-K-2HGAAl)y=4z>fvzh<7^G7SOJ4,fAe1!r;
4e;-%E86A(^H0Vkgy-q9jT^5.FVy8Lf>)@|1,.N!f~re]^i0cEb[8oyMqm6!$p&[JYY(2;/w;)|PS#%AD-4NzyaOjq7EX*uRVHT5
0_GYW5DL,`.5O3P!j'8@N2T>jEL0FGt7[`-N*LcAod4rX,zq*r&Q`wqFI,,cz^7G<<$B3NIjvTW#lb5l,Tk|#pgby!uMiX:ar:
Xb'uf^Y95^w_MC`D$i48hW;TsOn.#/Ovxe$![2t9Ki-F-9JFB^R8-KfZzIT2i/%9N*UNPkhU9Vu3A^/z?jd`5x/;>N!b3WPHlGJO
2HK&+z-dMKe^k|`D%<S%IXkkO4FCin!40^~|D1dO!Mr$7(mDB~WGldv2;pq`9,~'@AA,I[:%rBlg=LTIiZ2IGl%?F]=_xh]K)qiY
J2AaP?IUl[5EmQXfE_LZpQIh~5nC=D%cKZt*Wqd-eavJ#wm,W7BwUxxJ<M-Gd0:PELvE]yH~@P/p%6cb*u?Ep5lf#+,O6z.7
L;!jrbKTCv!1QATlTNPf4]C#E8%Z7(>SI=-2Oe8%3jJ#rA^/v.FsSLp?+w8V3hFr*)+7k$CFfVgit<54AJ=;jhJFOWa;Yf[o7yh5
Disfyia!w@S?*q'7u?2!E9'jCijLdq*yS5dD@q-~^q'zjix,rP|W1RNQ_LRMxH(uZ(tJhv`>tGT_o@p1lOWdk2g$e,p;Ew
Ys&vq##f7-1O+BzA&UYCMA!hIL`Qm/157HBxgZwZb)~k#&!e2Pvb>+*VX(9m7PE1U,e<Su9&@1'JsZxm%dyYpAVA[URbe0
E|[cb%p$Z<4~eC#_f|j;?Qpg8FXwMsHXhg_a,7oD8gzG72k71'MpPTC1wf3GqvU;|Y+=uX^FtLhrfAp[^l^-~(ePH5CR9_R^(@uo
1W4wP|psBka5wisHXyo%mF`57Fg[`2:FiRYs;rZRg29#k)mGe/YP:QJ~~(5I61f0Q9iBN-@2!?lF8$rgqnganBT7AlK`K75
0k^rqy5io(U1>SGl`2,|fpR^j.Nm=~[yNv9~2`nNNBKx9NR9`jCFQf#|-09h_3OIZc45WUytS!Ljfgg1LTPh/i%p=>0Pj7Kn#+.
Y%bP-_FZ+WxYc=xotE(0sdC?8|d@|vmYm-cbGLd*^.Nk1h7RZvup43CYT'A:R-C3:ll.?w%+@HYva??nuQ[gvBU%Ry$HFc@c-~
0e*%iJ=REE,l>D!=f!k46]lQ]@FnJT~ecQG1%:_5`#ZPK;/4g'Ws@sI9s49l4z@l`=u,r&m82&DeIQ/=I_V]g7R2$S
S;tb-c`-wh?[QE0o*Ib()u`B4<Ak5:u1(0|.mMu<fCW:ZFPUPuT`REj;j?IA1+W~I(qSQPi.(odGR-#&Luga].~R4p8yt/JB,)>n
0O?.1G|>V#:0.-Q=&OC>4mb6w.ZJ#4$Ip*%1*fNhx$<6[YqdJZzmgSa:p*1-5?sSc1XSX0rrJM=yfeecT[E5..&bO2+,JfL0YlaA
FB3flvD,q&9L95B3r0,LF6V~J3jnY6@?LdZ1!s$xkdl0W0-DTx3|h2Vs:miAOs@JwO@kX5L%G<Qh7fNR=(3Ry`/O(CRQh
7<d<p?(,Ap^1urjm7|zBw9v>oi~g1vVL-$DJY]J[Lh<<t&>br<zz3w`Q_@JprdoPyhygMgRe28F!2OZ3xJQ2Z]57S&0UX5wU#nh
2!);ZtpTQ>[p8G.L|Yra5j,o3sab=VKjN@uDx|TtbXJw0oxN`6NTL~xbaYn^'+&1`w7BI^jTnnF0Jcg/)(=o1E(D/XEJ8E2qc
2~^nIXp(*vDjWyj+iM!`x2x&SP+=gUOayP|MJPAQ2m[$&)~io%h2pL-)XeZFL?&]r4+QOD^I^0mxr-?Qr*pQIQ;vH~G2Aqwu@V1
R.9O#|xn!Ww7R~e2I/*J#bI`.knqf&xI:V;ehtQu3ZBbCX,XROZV[sN3718X?UsaGI`tEnq~rk/sIp=4xS$S:nt~pCYu`:t0B(
U[s|4B>.zR!25W|TXG+icKUYe4aD6yoRGQMy/U`-?pJcMLuM]_ihFLjVEvP#5dP,D6fA5Sh(e%&ifrY=:NuqQCIi&Rx>CDLo6%/
2il*zJ2)<E_zl@H?k7Pe;l#np~%-cT62fbxiSQe!q;sN-IARzU%m/>h|aFUZL]g@3$pBF.zZgXA;Ybxny|TC7gh4TrdHv/b_|apt
TLlH'qOkq4P8EazH!ELw|k~^?U``yMDN>$l'BR(tVp@h1nrRH|+)20ejxh&(@6&mZ+)X*/;5%^:6TvaB@xhBB*dt'+P.u6F
6k_)~h9HrG4#`gQ8r75U2O6|EX4H,u-G.t@96cVwH>m9+)1#w#`8Aa]TI818)TiV>L$X.i$#~;ga#7X.qbn$3=YwE/v>tJ)&'+Y;
Q&<j.wHkPn3Kkd=3`A33]t&i!I0N4aOvqFR9z[9?B5jReUQ2^Nm0RE-0PxR~47x$=tM_j(n*XTTyUy5Su_syv6C`~q/9UEjSZi4.
8^|zJhFG05,VwbMq<=%B'C~?-flcdie1K0#z^6?]Gl_|Eg9f[RJ?k17gA^q[Sc'N43_W]5Z/IJbo/%mGq-&uO*/,WMc=v?AK$[q&
HX8~,;qM~%oz$DG3OQ3O+F&=y6sFu8|Rx5$/y`vx8!Md')$qwE#`&y`I>oJix*ME9A5;oMiSfg:.90WHMS<Jl6IVSp:Mo[i@p%d
5a/fT#:dkJZWU.(07QXy$DV62Am7<9T~]Q%<(<$J>eW=/7BlT*Sb]0+;:ut=g^TG:f@q:Gtrm;K-dx<aP3iU`>r?`-wwYh_`M
J=t~t&6$#'F=wCPd00XM,',xIR|$<)L@rG~[z#U;wy99?SiaxS,C|I|xH'Q``Qj<r;Vt@mG1v)MLdvfVD`=<@.s?LS<>5a6,:P
O*$K5MU2k&Jjg0)7~;@j#+DR2LI`6|l]>#R;2Z=*]v]NO$;qq3G>3R4#2q,9u@5*US1Z7%FrdWAo9,FcQ~<]nMCea+-M7EYa'!i
N_,%((nQgrTgh]a3-u?l+c9htqSQyS=V:qD!H`NdsbB#aJFSbix%MRK1^C3S=IA(%~LV84.hw~Q@u~HMw#4'yZ:xV0OwK+ksHQk^
M[$gFrdc2+obAMCE+s--!E,d6nX]2hyR]erbG~ma_H@&?%=PWqDF+Gq9+k9GipXMa~=a`dCmRc*uCL'5l]_dQ%#_d@EO[;3z4&U$
A1zZewGPxpWPdyAyB1Gb4|924y%|$:fFq:61hgo)0dAI*ss|:~Ti@!1$hxhCed`N0`_j9k%S#/+l(&4ZvHqn`|e|t]|GIe2[Tkv
4lhxnMyEe!&k)6SMp4:D~X%nWfJnqJ|EiIGKvQ0(;LY@9rPx]iP+HKQNnlA*C4:9;G|m$;0/.B~(.VNPXqyebZsDG@3cau*<;
Xt|'d:i(8TLxU)z!&>cb~9V+Gojh$w-EqB>lAB3bO[ZIwFX+0Yog&du(@m',m%mv_-b.n)'ooO.b$6-1*0=G3*=w,@7BIfB/!v7
Y`iZB=Xrf74BWbZ5I~O)#iD]fo&F^?o*%tAK5[7^s@nH%|7Kw*<,OXb#b?'!M50Pm^O$'38_b%*vbfZ/'nc+C8g<O,/miZ[1dhHo
K&EHone5-),BMfT$V9fZGZ:[h'_hQd-ow&;$Olf''v%OzVf&&r>)qNnFx.:>qnVu@t<$8(g4?]u15F#h%bi(,0JLP*5iMx(KCL
IkfQPy&92ywix1XKW>#T=M|sau:f==A||1gx'$wK[#b/=NWkOINgjMmJqR1wuSguel)?G?NdCc^36]E!+9|(r`%Hq!IY5ZE!&dTu
I3aoFwwm4gylbi<=g?_u5Iwet]Ei$t,[WqA`p!TH6F|1lkjprc!#y,.s~?*gj%*/w??eQiD)I<+fQ$-YbtH;l&;jgWO<X7z^AC~V
4JDqaB(Ql)Uh0VB>G,TpTRd9[W=I62f//Wbv9[[%GNd%DXfmTW^$5frVTwiar.[y`(OGG.H&]e&hTqVPe]wfK'x?TVj90N&j:Nm/
0b?HQ',z7w+~cnq)b.[;>T!%;04L+*cK;~PKB6AfLn^);zx#ge$i||@gHc^-lIRo(E22GaQ4HKM>@_]G7ZXd['3@f6Yqd*FZe?;
D`mzP=dc2ifF@1UNC>(Qh@V-6SOrxoQ$FDj>c1%]|[.Q_&Gx:#t1!$ZiWRG[z][PssOmb:zQ6#>L9)CDs/2c>T!<tWYbr@4&u
Er-vBqwZcUB6]DR5`vZ[IDpuWsO]UC<v~b/XLMYdyq3jOh';V,O9),1qfJ9@*ML!U&LCn`J(h9&+sB>1Ll+]:^p=%P53[t#MV
L^[-e1K&$BlNzfYgfH1xVcuAa:-UdH@>LV/YBb!ivM+]#|<RE%6#]4,v1>1,ppIQ'?=wz,*:!C54`h_ts,UdhR-Oi|/O3>F*3$zm
C)g2Y%d4N4s?qO:!SLA[MhH/PHo^9^7BlnJNk2BRA|#wc6B3~sqySXXZb@='/P!R:5'iJ^,>B:+,C@/q-?icV1T)*rR+c
I$o*nf/#6`C:k[#n[iJzOJWVg-X0*bs@Is)(`n)[3Ns.,]G~txO=e`dhCJxJfgjxf>q]gb5-%q<:tV?0m49RjdVa$p<N[)Sq3q
D*weri.x&6!uJWr=VB$.pj*nXb/mgclCX/p^Gm=m~c#sts9q,46|N;N40/&66<5f~/Ms`G.*IYQt>4TJ*Fhn_hHF.Ay:+$Q4w2f7
9n`awu)CqTlb?ua3*LX.;zB8'Wdk3.(JCJd^pU@X]Jdh]v$'DSN2(hn%/sjA|88^K?v-l41g!Ad[,2/a&^3r@BH_tBR07)BkOmK&
D9Xdg1q[8phL|EQ*iO#N+9YXmBCv=)D#Ms1j6$$;Q|Yf6s^Z%knibQ`*FN.GJ.YX-U>GMVmqo9Mh1JJy[Lu#$Wq$p7t.-k7f8o@!
XLn-j<=),:$U|UD9wEhT$qA-3J8,gV@i/r+tpYygQvnkZ5!>Rb+n)w(=^vILESb&A7y_UqrG,|0GmR?)|zycC(lGQMkJL4,X1&,d
8j4;4vi1e1Zxm$m`5Boiw'.3+A,Ubxl(w<^+YoOf6HIFZ20`T_rD%s%Ix=v0R+x4.-1jX9ltCz4sofU&uLNo(ST`f3q3mVZNrT
M[j]MY]?9XScmu4B`*IPM(Dod|GYraE0rt)niQUT%;&VgIa%|uwh2K0n$Z0S9rdJD?0SmEu5vK_iq`5/E2mT3WvK%7-/.Q|n$:%
Qvi,vABuY2VH%vTsw(~ofm]Ujy<-w_%7kx4&w/>4Gwu.=UC?/5JO*E;t~9Blxg<#Tn0U8];Iprx9h89YjP.LqzLaLHt]i,LX*8R^
5Rs4&2ziUHEE.5:e!qN5;DFecXd1x_8pzqNI>>:^1kpxa`GBGZ*;=sTwMpEB6;_1yb:!_-ki_!xY^NKhK4+00cyoHP<<1(AF2
H|:e.;WFt8C/wWG_><byRv>8Q&JQj47#_x4=Vlx[BPipdP]+9LV,u#.J/<,gH,KtX*Xnyj-;k|@-mgSj6z52MpS81'14CDEu09tB
M#`?iatzmBz#n*-(##LTRT(-B_34e^By#ldZwJal&bvm`2Y_|As%RD4?hmkP.Zp-`-:=zWj@fk1HFo2o@mVk+58Kp;zGBZJAYa
Q!&pR])Oxl3:6qQEL*)@'=Z%_J>j?H2Z9f8Q)u*e&a9z86d=beXOb~w0MMVY3h^*wWs6[oR1K6b.t].#PhDU/4(Tf5%Y>N=f9Sx?
4UVF!$,<:I.QIZ/mPj^hzVRiD.s~opw|HulRU_hkg8>o[tHk+e|SJO=5en8@~Hc@u8`KzrAl-:5cgEZ+ZfVM=#J2:ax>,=(~2|'
7_k>[I+-P2uX[hC0nCaxoY4T&x+`$kFY?9yX)KxK&(i~4a1?pXB'/z&OAf1qL!:iXQw1E@f6hbOYe;~[Cn7#`;yPa3T(>wkh~97q
5T$FsgvRp)KTReJ43`o:u!O6e~s&J[pb$/DNg@GIP~,BUB[8%Z-3Eu?1;hrpw['1mLm_lH&D5c&WlzXJLw~Ym:eN)s('8Y5q
Cg/!jh|GuC<o%:gaM*I9k*>]+[DW-nIdTS<k=2?vR9E&,?q)cBM|M/o^WO;En`~LoNy?Rl$ioIdG%Js;u]DS93l.N])nj:~now
6ycPG->-`Z34dCX3+~!boL01a/Kc6R=4/pGvWq-;EO(A+.Z!WUZde90ZGN<N<9J/vJU2?IS~r/:A&F+b)~PvdX2`,SaSN>O>ea%
P#~mWyvBQelmoQ+wK@|'owaHTj!4TloMSm]x-@qcLTVI?sQ+QHM=r;#QW36Dh|eBac2*^)>6S_'cunoy0fP'>qgRZ~?Q:hynpSqY
YGJub%!#OV(Gzgn![_^$j;tt0W7KjwqFybPo[sV??`6B|y|k6i[TUt5n]sCIEPuWG6GLI+V/#1;(qqcdaf|^$0!rA*+L=qre
Hev+m@d3Zv*#<oATp_!(w`.HLB&Cea:ui?Ec74y.rLDg0JMIa5fVFsxG93o`|=[,|v4htE*tOn3FhGO1@3+i$B&I&]9GrzF`o7Va
I#OA8=6mt>jaqX!8K?0[EJVI>KsLKHZy6@31HYl0rVl1=vm88saO~NB*Y/67<6:8<+,^=+Ytt??!g'vQT3I&YgjF!P,x`(.o+q3_
67,[bl.UbgJUz3S)%vJ%MoqTv;H.y)5mW|zCdK'Pq!F'Se66hv=$x)wvAFJp%6@xG[*'P):sB)]#S>xxsYECv*n%/l=TGh7!J
R!)rPddBQZB#f|DX?Y/tU?bz9lEloNKphi6`J&k5/ao$`LM!:K'Jo|>=Eu+[6+wXDk,-`R;@]v=2,j&@-aJoWFYh?2b_;iL!
Ege_i#`fFR3oftK9rr0in1usGG&ICkM6Gf&Ni=.ENO'`pjQ;/X)(s23v1-?L+lv_$+x`JB*s!=F<Z5O:c+'3Q5!@<G0$G7.1A
I(dug$J1bJI^vXWl=gdo~GksLK6m$M7+z/KGeF39iV<|Vo>NZSsJK|nwwb&arr^U-e`ZbrU-ma'J]Glf~8Lbz+]%|fCB6W`
Ee|[lz~TQ;938a!f~Lxjag;BS0w%NjCrx43@5kMI&R.H`6bK1$Ye1OJ'S!q$^)jYS/KpVJ7]Xb<:e#MIZhJB2$Yr/yZKL*MS6L/Z
G$jdM|6hD8y8Ic]-u$:8y`^zq3UZzsmmOV5ZKpqZEp1IyvLAk*nX]doNZ%LmUUb;Io&w&$f?,#CqA)0%[=i@B%roLgoMEcBg/_.b
XoUjr[4)Fv3VSLsU01?fi6R&TmMJi$=:O(ZR#xE%X1XEs_ZMigM~q?YOY.zYnq3_]#H^YcdTh9Z`[*4Av|-rhOzP,ab9CZ5
1,qij~`Q1KQV+j,4._~fe+e:Ks/aP`XvV`B6)r7po@bo[b;Q3.*'xw$v%*9&5WYXy!CDwt&xPGc=Im(B*xt;R=.FzUXj%R~HJ%x
3(1MyE%BP|1*4fL=2|?mf=Wxke)O~|]m,;]oD&T$~h%^9tPhcO1_6YN8&fG;m+weN/Q#HpenhdAGHd'0D*NhKT72JR*7e6_(9C
H`!sS3cj!(-qu6`[@ru_]T!])~NCZa,9MVG<~ME`keOg*~?Fmewa>~Ms8^4N=dBH:J>Ojv>[F*>HuMEs%|OIQ`%ikbZUjJ@
9#d]*&KGoo3YY6C34'H&Mk$I!1'pn6sE`@$-)b^O(MUHRJso2ty2k@VgSI?m77fPcW(N#rU5d)`Hnm8a5a#W:];2--4Oz]whsntZ
3KwR)(@UNHF5<CUb0gLfRN@B,Az.G^<18'AKnZLx(RT+l#j,=.=uv>kJOln)dTo_#Pz`+*Vug_YIW1|LM|Go'x97cfXcs_/4<KVo
Cv|@<3/Bl/N>3s6r?Jb%C(P]o;,lx?p(0Sw!N]JVVB[iZ9[<&$r&6|kFsCER1zUL'j5YaSZwt-^_mzYFX%n:IxP[V.0sj9XBAgn<
ID=0Ae?.zZ'tbN_og_[+DQuAUlYxT_!'VYe0r|&zbE&i3%WlGxGl'>8h4KE*~/yo6`]sY.Qy2*8rIPu%f^9F`SgzZsF=r=E@L8/Q
Ip=fr$]p%ex.RLrtM(Y3m9!q<_)rGbQ>K(aPeg#LBea3$|#i3|_#Uhf?lHD.ueB9l)Tr6g7:iUC5^dZa,'~0=BlO#NZY]I?K]J/
4p/On+JFGjmlQR1hvo-QZ0aci@<CTK;(i2Wvo,l)L:p,xtKk|+sRG<2%a6m)h]*`)S*g^.'4kPz&k</-3WMg%<&z`-ZRfnyy`DvY
XC;1j6M:%z)~M`uO#FrP^GqTZ9TWiO6qanG(-4'srp:yMOsqItvW_e]g>VNZBb(I]!0D?KevTUnCTQ:RxIlbD#@jLR!+=s:sLK
Z&~a0r)LTAl_I/rgAIp+S`Kjj_fZ2+w6%QWRie7,Gw$tl5djM9]@;.8APCO?m*>&BPlIH9kR>y8oU9]mP3>%M2(zDM_sTD.1l1T
Np]qWW2/u$cSXs0i(]e-x()2UT|=']^A/k`=3z:bMW3f_KusqnYrX+KcOwuJokv[cenYorM/3ZDC7pL7W1aZzIR1`80gn?Ja
A:blg1BO[:T^0po#@*Q#6DTNeT?VaM-SZPhWK$[ERE)j?U;q%=KuwxR5*PUgz^+v(;mG-1rFsw%+%frm[DxysR3%-3U8_.7S%z
S'==(PL&82NFN(gHh9CK56D$eYFvFNQ6c7`g,G4/b^imFG;*>%M;+Do+/P%N)I5yJ#qdv-ju:`_k<&9RCc;A&%YU0tzfr.EzwX)@
Lsc(wLD[T@Opuz#NSU(D|-cAnRbJJYC#_VA^-^5Jm+Q1)l,?UPx'kSIc&B8:-,Ip<G0#7ol_4Z&#nFS`SRh|etnV^:o!!b*>M;C*
ZlFdop3zcVKa_08)R%Z+D|[Vy=J3YL]:qN0Yz-Aq?+Ar(7c9#,3+A*C*0:)f^M?)?|SI!bt]gzxyn-G;@.JT>?Su.6QGgm
V]o>?%^7U*U-!(;<-<j8ss>g@i:yE2v-C#1j~U[wMQ/#Ihe$C:wZm1b.7fvK#92/H|&=?3^yEg~:-um0CICI(C@R9]fW>#i!AT,A
X~CT!gZnFl7Plxo)8CfLUt*~9e^:v^7Bp-'8oOH#PpZfS3KNG;l|WxB[b<`cVP]FB^sR4f!yFme5Of7i`bD$!lEbCAY)qVDC(vmY
V5YnT1b5[i86#2gUE,073jno#^xd~khij&d8KSm&vA=q9E+/!)hh@NVzVp/J.9Eh[88->4kPJ3MW]]$13S'f):a-u|c|+!=E%%,5
Vd.qXjYy4YzHHW<b73H@b;3'BX/|PYYSO~Bl:$BW>%6c*8b~F[UVFysL$sK;=(&2I:fY[)I'ItEcy-3^Iz%z2;^k6Kd=ilWZ~e0
Xx=-C0R1OdnO>QoQNSL8c#GLMk^9!emEBRm$A*8Ptexz-czNfqd#F!K)=RR+%#VTe's-.GDh.+`r7=OkN+qILO3x#W^xWDA>2<2
UwX8~aXOJf$)H:b[s?gC_V[z/0jjTA@p|)HILIB>@Ds8i|s@2Ra#Pw-|Jky+mZ4Ri#r^~u)%Rv+(|fF`x;7GEoO!Fl3N,N^=>M(
9:($%$I3v-l6oVOZ&Y/@!Bk&>uQ!-9bLuGm?1Kb$bWJiyLhO2R*Xi^?4!Na.u-Ycgk,Sc9zx~K<~*-EHD90>L/$-HjB@*1Q
Oa),p@w3;J07v,4)fcZxapb6J;@yxb^/Mvd.mf&-=~C>[7I;[sb&&9z,eVChmyD;g@jqZ`xc'tF*-Z]Ule`fx[i]Fd!v<fD/(WT
4~pe[9~^rnDA`=lY!wEx8l]m_7;f`&:9T%1+kSaFX-h~b(%ioG@TWjL3[RpI7l$6G*X%F#xO[t<3(!BLL<+n;OXH`+T<gdAo-
G('dsFo]N;hxZ>]B6J]!3E4uW/!H0V&AoOWC!Pr%BRL%7'h5JImK-vp*dS^B/eT7TX)bMxxveG$Dvr;&Sd-~]/<+t=>a|&yjBn($
G++|!_3BseR0lIa`+PJf!Jo;bhmHCQ(l#^SwT@)dFk@5cA+Y31)rw?dFLP/hL/:roir>~m`jwL1%5#:?X?6@o3?&7ZZs0p
6iz.&*=`'0w~9uN9iu-(hi4h^)O86Eq?>Jaa=f/L`eVmD/QUfXNc2x/*[5|eh'#_%KVFuGn?#|?ALa-.vr_bJ37jB]g4G[o$Y
T|/eN8h(MZSF&|7Qo5T;C)8wZZ[,/O!6<FTHdgket+6qq:@2[?ZUKeh&Z>?q7SYtpHf=vKS~c4FA~+3Wk^7pLHMi%Dzu0TK^V$6>
ECU'RJ&ir4yvtIrJT5p/3Qb$|2m0WOR@iv:WA6/u?6J&ZaW0+YE,Hw6.ctd0,;&.4cp'XM@5KgWhE]-:!7h8dv1EA#ndxD@C
6:^bjHfEg%es;q<x?__uLBS/vy3;.68cEIMMiaIw[,sHh9fB3JeBcF<daS6WP0+Sbs(mrIl?~9=jpwxVq9eCq@e%(*BeYb'-CcvX
IMJsS+,>.,DQKr:7e+j/v,Gm-y;*~oFTc%q&SQD&hxOEvbXq.:R|Q]HEx/D]cSo<uT,/RLZ[o=oAQdVIzk20][)M5j#E!50<T
6$dhN>s+e+3#jqRcYnk?NV?i-b&:w7L^&S]yhY_wz,`RDjTf@j-b~76?lvL5--!_%F;vxjuL*fv&p?/2*H>y;<Y<cN&*F<_.E%
Aj..Py'v_SS1%LpS*(9Ww].X+Z[e7KrWV,e<y_4/B*YGzE_iEto3WXT|h%-@AJC.Ib,X5x<jLgOFs+`Be<kyrpXHxyDRy%XY
4d~pl2CR$]N|@D_'3ySoPNa<S`Xx`h@F9Ab@~(M4>F6qQ5Ndl@/s&o[tOFQ1->I_b>^l+1D<t`StN?h`*JijLdc^.$Na2]K`-+l
Uk)vV,-05?v)3JnYl:Z.vpC4imjtv>wTQwp4Z`(r:TS(NTN40V;,XrQE?Re@zKkc3A0cmA1D:x>`C4P'5*_!-6ygS(F8bt;Uxy
WymS=^_`nouwN'c((yUmLxuCXZncjJNcS5U,uLFk.8n^8Z[]%%]`Auv5B97gf8j15/$39oEe=*O6OeH-AR$txc5>3a?PVO76hf4
2<DKD:4:F-v)maJ(Ul[@T^+H~OCnvIbc1%yg=eCAO)_LAMbTrs$M@$zbOTla$B&^<UVsm(xJ?HdZ*A!slM.cF(MTA/ZNy!U*J0@&
Srq2!t20ZW9U+($yOz6^]@SM(>##|62p)XXs7dCl'RBa`BYt?t6Zhn+7_5m~4x&s#nL#ul0ZM@Wq2n=4jwu%oeBd[GI:!)t6cWK
Y!;|z:W5W[j%31?!'tFpS[U%ZW7=DZ#rgK:hE/yNW1#'iaz-H5~8t-+CD_A<prvkdj6Sx~Wg8RA*wArN0Fs_>MaFsZV/_#U$9<3m
X1!ec33tC!XgqHsC/iBR$J9|HF3lV+]+eedDSp_AwF^&|;8cT/b6N#Cl'~k-aDhmK9vj=,G,1WBh)i'A//Nys#$!9RYPN[13Wp0
6)SR*GjU['s*yKOcZqAI:GZAbko>))R(Ff&zgr0k_`=v3EOxV5-'ENOIXE?oA*hBO*81Ed7^mAX'RpkZomHNztqrw1*/!?RU53M
Cz8u?3S@?XC:96Mf(#N:?+v];v?pQ4a=$ee`X<%SUQaiOGU2.Ni6yl|uI0!&!IVh,4q&J?~vwet+.Uh0H5rBrw7^xk'w]bZPE=
8is_K742+/yNnAZHz(t%pJPJIa<vHC&c9-l7UHyGBS(d.-]`DF]pjXwa37RtKi7[%!p8?OAAqa-x^S]d='_1Er
M:h|@!i:,s|(s)f)[oy/K1H0=$a!z:p-V-3-8W69ky3J5c:0eVAhsE^A;;(_<z=_r!P>fa7bc.9lYGsTw``lolzE38O_t1#8
Um>i;p5yB5UN|c@e(,a|S7w%sZ;vXjXmBX'xi>Km?e^6l3Jq4vGDzBEV>mv7Lq+l9~iC3Mu-S<qx.)EJ]ddR,6PJ,CEb&7LA1,Yy
B]v3Lxh,]]%.>'j:Bp&'&36)GH^t]$y.us:*^k[Qvlo<1:_MyqZ7B-.:kIL7PTUXr+gU:i+m:h(%w>XvYPJrqKy0q_5'.'r:C/aW
46p;`D2Pc&k62`/&BsD9621SD[B)m$>'IyFS6oj3'nt(iNJZQ1'TF[[V`@)p8!|88PICu|cJ72FaI@>*wx?H.vQ6Cj8i8.S/sN#s
Cz)ASo<nww!9rAu[,5]p(DCo5i'&x_*AP@h>M1hd)UK%+LonA~-s&kkaQVi;jkx_qXc8J,C!oB?pp/C%JwI@;iY/p8GUopTzA
Lc`'M~b_,m?#Q$/#SEO;DNA>>>JdB@$-nq@r5K^UN=E$'-g=H2C9/j>ReyvJvXm#&3K<7GyF>=*Rj.iWLy0,wi6r=gTGugG+2
D#@*$Z#jG5KE!+J.$g|$(S_c?;73BHZ=|p1.k']F)h4%n'T=9#Z,!!>ZTq!<~~4cx3z>nS=(y@A*41J#XgQ!,!u'u6^geE24]`:L
HzlO`q;qqEk@5J`,W.6NAC6DIxVmMf6!8aVN!qS+-4+ec5<_kkXNn*S>>Pq0YibNrRE:N(0,4KA$6GZTSW7uAw>67Oh&'W>Tvd|
7<G,1T~MfZTK*w[-q>Q?q'&,FoEgPz(GI.?hJ6-lM)!fo:WA8d>S4XcVwlj8|pq&,yKLG4;*zyzmYV<dBzdr!3bC.hK2eg
Kdp?#cnWn@xHXc9D2tL-1c2eO`#1yIv/d.u+mgV/deZ[`f9pVF]-.qo%;0.y,~5ahCxBDN<m7-zkC!3oNW0Oa_~]M-E&GI
0c(on==,Rv0@/2b,O05n24D%__p.Xs7YKCH-qGoJ>hgv7lXiQl.8R@E;I::f95<6tZ3#YRyk/DORVkzwR)saK@0%I;bKXWI7gI
Kps!=xXkSosEB9]t#KhIVl1u7tfs*QL3t#fERL[cXFIizO8A.gBtNzm2CAS*`[6kDH<`sEYlQ0@eE/byzR&T-]i|(vdKg$bFB-[
3,4uq(9j3SON?c407MlFQfxhi#XIe<fF,g3W#Sjg61-2ft01EOv^|4d+%J&yX79%X!-[?#(p?7H2(:v(Lv$oL9AO>CbpihT'cl1
Tw$!-OxS-E-9;+p8L'xtz,@6=(j[|:LB[sQ97QqIdu:!x2u:bdqGEAmWk&bZ#/V#~>JIf=(`|%^7Ku;YXW(KS$#H%5NF,2gvMYsy
8x2zsj>e43k`C,us'v5:kEMOi7R,_>lPxGu:i^h:v]cu2fj3xZbCb8JdKB-0AfwJeNXi6?im`0S80AkF[gB*.MrKehDpL4f7zn|
Aq>fz'|ooLuE6]Ds^hf$+(CQwH!W0i.DvxRAD*H4vby,:4#H6zeyhRk]x5_-l,*i9S6rzE)[H^b|`IuY2s-eWOAYG)3j37:emE!
KeQ@=d7s2xlfhgvzhu%Po5l><g1MnM~B)]sQEJx0T4@qoq,w1EKR~=D_QY3JI.0Y=_E5ux7lFAZilDiouG1`*=cmJ!3-EV^,SaZ
Lz-t7I2Fa+SjK#uv2-9|:'Gc-_|zngKlX0TCbZ_9|ILk;sHb3Ep-L(FAEHe&d:rUJO6<n#f[nLju1D8>!uZayOU+N!6w7c;22(n
PxH6I_;:gV?y-/wa:'9Y.~zwjh_,1^`^LeOW#y;^bhKI(Ei9r:;<T|D4rVoJV8^Y11|NCu~SA45-Eq=j05O#sSt|:4V<(*A!T'3
P+Op78c+/)YnfFhK?wVFH4?rJ3h^ChJad+VX1m2Hx!apw^HNX0PLkNahPEVD/L<M2B0YU'L|-iCp$Xui_4c-PxJn'L%RBbKv
Fzc=|KcpG7EW/t6KT6J|zFhm|*:l8)Sa]%W%<;G:w1SQ9Tp'-8Gu[r|m#h2fp8UNFe3xV`VlwSSlE:FV.Vt#RTu2v6E&Edf.4bxD
KH:k.hgze$_/5NkUlk~~XwC:Chih^5V<^sSq9#'3;Bk+5Cp&]]G)V!ec?57[T&`=cpC:LJ%:cyd@q^Yxv=cWU?%LW7Ht<x@?eMq1
1.Dvk0Y~V]|a9;236i8@|N!RLO36u+WbyT]iGKhA@KCc,/msLG'71zJ;ZJau>E3/p2kAg<qo-=JFNO.v_FyQ~KOf'(+
Ki_y/,$tlf#2ZRV~i.M-|V.1X/ov2+OQKna(~B*nFQua/dAiZ;-P[00:.b:PzHL[WEDs)'94|=Res*Z^-Y]F?g2rtgujFUA+#+S
Le]nw3~ky3_~|.kVcO)/NE:i!_M^/ZY1mE@z,#4Ta??p<lLN<CE>>/FAVA!A]G;wv7H/w4XkB(f5DJ5V$xs;m$7I)6'u]nHQ$l
Ems1J`I]OR=rypm4>eWe5*0$Rc.GmOEFcrmGan=!i^Vew=fv+OmPbrt-?KMBk~|TkrZ/l#Xw3t4&]]jD>+:_8wgbA4Ix+ag$)u
Hv&SEMMMjyBs?,.WD]b3mg)9kG<MseTH~o!wi)>Esc=d>L$m=`A%c]y2.bBM9Jf7>tUx4bCelkG^GR~HI_94lPcPD1/`'p^3+P
AmoI-f2HZK_x8r5&bHJNr`XdI.9,@7`Xi8eQtc]&Hf(:&/Ll/9IF()&o*=&d7Z+e.arZnl-OI:|r]0s?WN^$<TiL@tpW&l@`$
R&f=(Ka;RQ)2CT#]Y8bWC6VvcP&/l:4F(&'&4^eNM)aTy5eq>KO!3V+3`PWDa#p5L.M>]bgB6RodNnmz_jk[Mo0QCwXcZ?SD,O;X
9JyMTI^uZ|ON.`w]NF>HVZg6oHOHvVXJM9.Fs1d,+1S!VWCj`P$nb)xYNS-K_T[y[e]u9X4x`b#?(&.a3DTB~vp72m-L~5s(Cvb/
O%q*hZr$QM>8J&;m|WpgEdHleWR5Joa+>?teSjoS>Mef8~I%=,_8lEQ8!_aB*v)/(Hx/o:OJYKV)L?u+uJ`Jm8b'.k#-^me/JdC*
3($'V(z7XXQL~*/vFJZI*jdmZ'$mMT?KcoKn<y`3_4ha3eI)+`yWH0uv[Ve6ZU(=<G?E0T0P<g/Pmjd6bp)z4~U:1013^IITS
C|/rk1))^VS&8]7E=_Br~ZV0~46Wz[U8D0qPl1v!.AlFq']aga_O|6>~Kx<Fni|~-kg%8nP`K]:-qhWnq%.^Cx%0]XtdwI'H
6^('?Yu-s<`=knKjs!XT`=SJ)XCSnoGh'VG$[FV[wg8fKA(L_X$b-n=STpj^b?l[@B16waT|.Xlc0r^?-W<sr&@1D^:;mo@6`
Si*k4Y#=HzT/'XCNSmTr-.r[|v^ZX&_X]O5awR.y(OHY*A[4Z*+/9lBMYebV-)4.oVObgApLtc$<b97h!2o7rgSURoC9Xt9J$6
F[['B`!K~fuvl>me>h;m,K:yI'2URoq;QG_#EWv;kOXFfK=b1/22nOJnknU6XW&6#A!>M/N+w:uOE9$w)f~lQ+:,3h=KQ-wFA-g
Xy9vLbTjgBrn(B+dqNiH$,_c*]sw0u<ZUR?!D>O|vEXWP.+*T-C`Wvi:c,&L[RrKuHmTGO=LQX@K&,ZT*+4ZrIb>7iTuQzMW(7
Nc'jT~St'tjzIjcm/4Kh$<GK$0,6x4@H#ADG.!af6[`n2GNM3M~<f*]qZ*ytGe/&1e>sT(3i:/9tJVP>#Zr.m^]/xe`mBAds.t,6
G99i92%7_WdI'rZ+f$v>#-K^FkP-ksDy&DBmCUWxKVH4y.h.;Gu+8=MQfFzkcz]>|'t/2*%J|2t8zQ^l&=EL'lgFKm1z3,L*@|t
E;u-t(h|R2P:CzOUMm:fr/,(;4lI~C1XXNT5[r<|eJz~/zZ(#il^'ycb?kob,a<S>|CsP_jX.63.TuhqiXX@|&G)#S0rmtjmwd
Zvfe>w1[S=@pZ6d]_lb?6`)L!~Iq'g!?_w>d39JQUEKjs~o,$hMD]SFT;Ds'Vea,kMe8_uO0j@_cT/8WavA3Dno49#k+$t*t
Xt[r]~WR:S&d:(SUOB++,l_GKS4NUbPLx,^e#CD$2;GhWCGKdejEXD~l(Guw>i?nhUu#'I9[vfM2s8Lqj?;gxQW@+C,h
V~q:*^m[uW$&sFy#J>9cj3*f_P.~U)rZ=56#!/$V]%=n6!!bAm6x%DSLYF|&7iy1Gi1[/M`9aJ=b3R=|iD*36s|T#9h.|h~<]re
Cw`~ey*!T3-lNdr=qd2>;&s[Du|&EQ%|d#Mv$EH4fhZgxzBiz)+)CnlyluA[VzRf^UdpPPHGykoK4z@~EW51V1zzguR^U>6.z/>h
9>q&3J2'|ygof~Gmn]p~wm.GEb$3AZ0`0ZbQKb2G-kY/&c_Aep6Mn3?KuF_c2.7+)op1zPL7qT/=~rx&eoI.aSg0ozP=OZwR<*
Qr/GC04HgKCNb+n[R)ir5l)LWe'r*Gm(ic+o$=DM3p31tlx6k>umT:5*lkf_)Y%%?LQZ!,Y,tca,'U;t2g*%8b;JKo:h-i4.
F/jw`V+l#a|*qCW9HCy%Y]%&VAi];~5^<%xx5P'ij|-~4O2svfzena+D*e&n4_7S|fqOZ$/N1-'QkaC7ZK>od|C[(iC9t+D.^f<
Va](fQ'r3dm$`!CoF,56ZMX%*U31b/ZS`pPa-3~V|5Z|e1zJ9>Z0?4#<vm+#GXRIM5GN[6[A2'`T8Zc6^XF'M$46.cGk875xC)b
M&LZYfWBm;k<c9Btbl?OaKTUX_NPF#=oO'C|M^>6)QGQvBU)_I+uVZ!,Qce$hHKdXX4;Yp6x',N*-qR+,KlBt9GY%-:|D7WVDa.4
KM>Okgx/1X(_KaFGjf;|`M?B5B5~~Qtqj=V1AA#Y7LDXIl/YHL9.],?FixsT+r_F9K/x'$e2:HO^!wdw^@(%r/*m.30.-iv`GX(
Le>&-$+&4vl8#=,W=:e?UV)#r)a7qEe~9e27+cAjs*;`pS@_W<olvj9f9Sml%-<6;nF$hR)n|834Z4)+c^=2t5OX[/StAT~hmJ
1=//BOxjA]^:N^%ZGNGqXSQ-h,>Dvy+1U2d=mOBN8~AMDSVf0co^tokG*DlO'Jlf2xmI!=1:#PdIn=?q;d+y]/(:/5vJNI6-+=8
PlbgjbQiuv.jnzh4wp?y6_4#=%hi%$&7U%>e|z_1n1Nm3e5z|`>c)zfDTj<IB9-NJ:(va&E()^UcQ:$1_KnQzIwMvOr'Xn#&p:6I
8)%po)W5DCS76J*TTFUO5G;oE|7gz^r*]yqU*D$UzZsZ)!s-JsEHcMB73N?'$vV1(%D*>6@jN$wgr#~B$G5Y@[-h:lF_40ci?Nun
FYn.>bk]?W8+&DRX4]$1)%2.?71!fd?fBg)/46D;-IHV?kA;Pk/5&hq-W6BUacgDfc%|0v]qeEtzZt4F7-Y/raTD-e^zf=#2iX5
UtPxt*JUrAA%2]0C,:`Q=i;uBq+dem53|OoDKS.+qxwg.,,h$p8%MB03Huy[1>Sm]fOF[4!<cmk5akcmE79y=7j5-f+&SK
2|qd;f:Y>V7z/Wx>S48&/S/+|/dK^[+E`Wr|v1<gdvF@s#d/ge>WgBnXqJRF9H%P5[|f-sS/!g#)+R@#,1F;r:_C(zx*KSc'u#/
5bus1mN=^e2A#)u;<HrG.Au!Q<'Jr>G_2/lvctY1zT5<,Kre^k/W(P^H@S?-gV$EKO0n#>8HP1lQkPI5[#3MeBqzCU|d4cL>:
V%!>-|&a:r,q.9lV!Y|F[M;/O>WcV(VTU:4$_9/M1,[=e89IJm%GK5EG+7k_SYRcAlw<x3cZ9x1Tr>V1a:xl2I^g?+!w0^$%u|Rc
QK8dee-sr&M!hvzsb`T4P>4YT%y!I]p0P$qC]:BoGlL8xWxZ)')49>Twgl1OdqvHIT#~`7AcI!ZQcI?JSwS%+DFMVYrt:Kd^3/F$
H+*6aMy.#6h)jj=Ni>]d`f*MSFf^gcPf(#T~+8Ob_`O[,(/9$vH9k~~rM4`+y_Fc.U<8Ri.);Y>n4amM!-FA*,yP+ykM%.ynEm>
V'YU#A,)ik]g.`.iwaKCh,Jz*2`C5T.R#nM)_Q[7,Ri;dv&74)lB>Kp'w(ubiVEp~i9'NbO(VIPCt0f|dD<&1LaSfim2$`dn^OQs
TGt57#`mtBH=tnO@?zRpO|IdH<~<(O0IKl=bGimfD[rt:t2b)5y50I8*5gq9ZE.wATK$>omYvNK@*LY8(=?E,76V2k)O+|dNDn:K
7Nf#-XpAN2K|m;C9C`:'t;l2FoV'GEUh;c%YTsP?BPvG$I#[k/A9l17DzYHlyx%tSE/ud:pNuo`Ikwhe4~hTs?kNo+rJ:`%HalaY
KlT39>kTQ&r(a6_TIEgUCDtSY~~hdF~NO@9Q,8-5hEs@o!k5BpG)=WnY-BVGn'PnJ)wX'N&wnlGVT4OZqBie@v;=5fJf~2O3Ehu
Qfpx*@~MNk)dQ%s]yPuuoVN+j*k_0@;Y#a!H2]bF%$.20u7@2Ad3i=QiBud.oe!aKwNzCLZ.VYk4tPS04=bvv2l<b9in`RbrF=0
J@DVsB1k$-P'+EIgDp#HVX8nIW_C0XqZg_^U|25tLb@/0PLR|?b'_.'I>?!n?&B|~Cuh.+x,Ez>&M`0i&qu%])pDH^pt%&I]F=[c
6<Ne2[A2_tZM8VPK]>Qm+MpWhYKxo2TeffyYqwArT2x9u3xH&Lh#|'*@|RZC)eur?P$f@a+BD5'P<PJ>6QelJ_qiy4iN
Wa!^k:#[n8BmNB>iuRiHt-gpt0WZ6[&H|Ag,O9,HkOb$:&W.bbkM>e|NA;NL^TQ]lip=m/2[_X9rBR[?Gd<30khefK]tBe82R8
Ku`|/vvY_b<V-b^4x=h+gNkJ#ReHfMC#<&@[PGa36G<XWxr<HTx@k4%%Ocj!c*F[0Hj?ij+R!Jg*V?-B:@2mT^3Z<QKG&%Y=u
Iiz#X%g'1(>2IWyt9yBe_Ahf^65o6[w=pL3>O(BIse592H0:~t31E|~@9e'sII!8_w^p^*H4/s?@ATHSh|~bYOCVC,zsc/.<vDi
KcH.PAZ_2eY,b/9@)I$ghzT&*fyudbHZh&3#7R`ApK>$r.t@R0UIznv_tE0/)yYz!)]4c[!<yM+5B787lfj$8O_2>J^JMc
Kf#vh(gPjsWn#Ss4TfMa/cKL-3zc_DWua)/@6yl_4K7QJL2R5/vf(fio<0*B[$f:a9%Af/e..i5Rs1x>1i~Ie8m;u`R(y_sVMPHl
I$u)|J8;9H;(4B|g#i>+Y;c'z.[0R;[+_r_xiSY=jxGCJ~ztgOf9KeHD$FCj=P@;71m5=7D:Yq,NXOszUbOY>97t3L
Tzgrl%y%`m&Eox;0()Sj4vBhsH_!Os<ZZ&QdQSzp6;-pi'NNf=(S~|11Kn'DLd1>+9%b1~P'1Q4.VZ*7hDms+Awr0d*-QFW+bhmn
Fda28[4,si[Gz)DKuC=3r:jlq,Jl+:')y3h~/E`=*Z.7J]'4O<=p-pGziuJ|B6??q@ypqbVg,FbkHl+c,;j_:?_QY`g@Qs3D:7ct
2]xQNl_kk9!1d,_Ohn]@au,[?z*9]r-btnh'kOW9|EjtN1By6^#__jwerdKGj!m*>n%u!_#*9O^K.WyM]Mh@!xkrUd@%8hY
H_a/'*3@<)#&!r5_!vVB0Nb6Dr@%rx9)%vC'A%/iOWF2L&cAV,9dFty[296|DKK@VsStEjx=PcZ]lw8GU7ad+9P[na8S+/yBrk7c
F3X8w!Vih'V`T9iK^Hi.9B$1F_<|hy;wDPUi$6k]GrWCn^->q:;ve.y[l.YPh:Ile`W<h/uuua.uFCE<a6tC^>_GR.w84WtR$7'D
W'0[,|t=;:l_Wxn[p]d@'w#Cok]pEBSP,%M]!dsD(C4%kk!,[Fo`|fC7M@.]HdYY?~`0dq^[(vH.[&1*Q_#rf&:OPa4*.*r!Ipnk
T[rT9BE*xa6Q>!70B>TFKevA1^w;=8ocf#oed7?C0Q/BMq6DB#TF-qgoP~u0Hc+h-SN|nM?A)(;l.EqK2'q]^FfQbs_NV'*!-w
Q(zIo>>n6YrSCyKTe;!INwV395^q+:]5_|$x5qop4j$xQUB,g!:NfTfVz'sY=`/uQbQ>C4Q~R?4LD<w.sB<l9Bp9l*EgF[+C>5i
Ra3H$,f_q[.qh'B_HKuz$Jc^&#TkB-sAmIm+5mTA:Z4.$!grX;X&[_2L%?d!6A1e(dIrpHD2<zYBCEeTxj+Fj9`by=dPU~P$3qu
Cy$B.$3aur61]IS[#~Zg^9SS+X^]lnJo'oZ?e0E;>>XiPKeWxjK[<9ea.CG`G.LEc`q|qcTL*b^`y+H~+MNzY:]v2mD5~~1z[W
7%^oD4+$UQrQ`ai0)M0cb&fQkjHJwN)_%+weZ9I|f]WTtkJPxHwn3:`CR-cbhU.*oYZi/0oBh($G8.lSovg1|Z?=y0i$PD#f.<g
E+5TZrCeG^gyp)0CtHm;_8^#JOwgGv5l+X~UieOGtzb2qY6(o5[PkW`@#AlI.5:ONZGffXuNIpuXVrz3m76Fd,S6)^~0@CN%+)
Db>,$/MuX!?<6CiJ<#J&KCt<)mp`XGJjgZ]/*^VB/#~DJ>oRI*=$;uX>UiQ,o:r6SFpr+-KXW6[SPSxec7Op_UuHda$*-ZSLO&`g
S9b/bvxSa$DK09dkLyMCfDe3PuLPU~5~!;md2Qr8<._2:2^H11D-nYmFE>gNOxZ2N2+mZsPM[uuycR`RgFBUk`z6)Ys>U`n9m.-
8t4n^iJ#8+eK-A(;:g=;,U*gw0^K&<gY3.uCxETZAog#DqQJsid;*7o37!D;Z@DjoE+>_<:b;EN^.-21;3EYy+,UF`G-%T%8iy_.
W&>1>6qo`BywG(o+qVhpJRSC1|A;r_?JdVX-Mkst?CAJ`m-`c:M@txR&|&wG-v,WfXD~AnEDe3r?2~g'e0,G6ll6mCOw4|GawO74
P(Id<$lJ_ncEjsJI8iUp_z@a987&X8[pU:7&(OsxWRbVY'ereA'RzO5TeK^)R=R]hMW%NHS.9owTNCz.x>CDtwB|r1F$M//9l
OckbK$1GRf?&;|sQ|Y9Ru@uFo-|Ot](VgM.ML:#,)H7+C')^/]QxI,d_0itM^+%h%C.g!hE9dwUVHMy;`IZ3!2|)7eN[$mvHvQ^
Mmq2R6@o=ezNHFpZPI(@W7n]f4rjL:KEhmPr:>(2q.:6'qG+_r8]?9F3uR^a!wJi^qpF9,q*jGh'+rg]7I8enlc^yun]<*Bn6T|
2d0`kyZCE[[Wqm2fL`7VOge]nPI(pYQkCiVz&ItAM(3P$ydU-K+nRkd8nu5R;,L:6*JaDY3e3<8-*~PsE5hX+eC%m,)4Cqq][-p
N/Lc9)uHwXu.031jUd]5ZTaz0G-XTt#t~aLlud`f[$A=g#U]([>ajE6jB.y$FWmf[vy~hIv$RzD;/:17M4h>+OKN^Soxk,wOmf8
Ru>'F-WhP0pG#n,G-gBgW:2tg3RKi5>fU,vbHNja)RLqC;/]&*cMh[8qWk.z;)wi%6Sj=)[E3F@kzCI?y-PGjW:xp:seNwdk`$ll
K2y7/+I^~~'nur*9rg?fNl>GBN&C&*w'2#-6T2hcK-98u;+iH;!c*|$-iK^hOkg'fgARx7s?8^jq[X<oXlw1PNay`0p`/`mbt[V
F+%5%M%8NXW_bOd'6InT!td/hCs[Ok>Fu^,>[]4'4an~#-bn20]gZC*&*#F_cUV@x2+[-bNffH0)E[0?@^nuf]9*>ZPk[Q+n1~Y
X<I|52Hl.m8q0_dT_wr7@#8aExtE>>i7b5Sa(DlBJBQFYf0?ve~p|F-?K)7A6Q7-tsJ63jNoCepoYt,&8f,-^Fna9=#K?1E+`M[#
H[~mE'H/;FqvZ5ebuIWPAK(U)8J6'dMWP/YOrkA'irye/PtaA&1NA~+:wwnC6)U]JkAW/bCGL~.e7nq1_W?%JN/w($9RE:Pa
P!(ci*ff$o+G63](9m.[pBeOM'U>K#tZ(H;&+m~l1gkIfG(SF7v`2N%(ns9jnCbi*uJ%U5UbKv&zG?bA,d1V#2Y'Ca(&]qw^t:
0e!ltr:oh&>sV+6tX8$ZWfN''>RLNS8*m!'r|u+rlV5h@KiJj^oV?,zPrNhtDixastRyo]dVo-.GDXkNW^uCI76.6x!ivRUo>+9
4!_QO~Q4^5N,;nmq)ky_qC2vI5h]AYs-:`#2HODTWND&.e/*;Mz&5#O3WUxQOn&4.Y>5Su3CU5rjxpru3d-=UQIx+YSJzlgSn/q
Po(e5w!viU['>!LbG<+@3ha|Qgk&F|t,Wsog[S4Rc]Fi)(<ri3=|G]azQQZ(Dc|.JM?(F`u7ercNkUZPOcOBb_W-~hz<Z)uo[)~
5'**bSRZzy)fm1LYJm[^jNJKF$rim1l5=T(0n|mgNRc]?DL;o95'$11^RMZz*Gqx)4q/:fLOK^f9<V;Dnt!vYS~Av;0V9f!iI
7g(n:n7F`H=V<kR9w.*4NS:xtgoR#HvA`H!vN.D`~c^;x>yit&UU8y^`Nhf+;pR,h3rl?M(4zc>KCW6,+]rLEA;H2&-Tqjs;wQ>
6|W(K1ui#Tt68XhcF?:qZ9-0!61#2_#6?*ai@#Ud(.+8q7>!<2FZFE,Z0E_Q8Y_u<Z^o|'x8qux&R=u@ss$t<Z7Y#9@2LC)n033q
Q++pitz,SlEL:iH[U_SE4i=m4KETltj[naT2)3zpUy4bgDIZt]ysQ,Q<XA$a6`#+|=pP#e1~u=5(0_8/s$Sln.Ge_]_)fYZ/FH-1
6q7hD<-_Y*z1?+R$RR=F3dk(LAr!GZB)m&&e>A!r$32.F$8f_O9Xm0T0A_q&S;yANHEgyoYAgUz1/Lz+#T7zEaje!`Cw:ZL
5#on?@&65'nbiiFZo7_%|F%dv~c[.;'aFoHXrc@<TVYw/S!.81U!2*G2lPKe--t|w&e9c]PDe2RZLbu^!Go3S1<5M!Ewsn9T~nu+
C^vXY0'7.uFK=,-hh;H])0R@ihhnr/'Z)oA,xqxsQSNTmvjJY+m9Rh_S;[/IfP=oSd0%=Z8Ln!pPn9J0HbX`g@K2,P'o)rmHc*E0
NW&>3=9-wu?zt>?4ufR3hEoXF]'wsX)~w63rZJT]F#-i<W:*Q6OHb|u&f_(f?:(0[=619(Husaux[iw@sQ?x&!j4X*^4%j.j
D`m[dFqty-j8<P1aMk9y[`E?U-kK'*D!S?`U*122=xGo!WrMSi8(M.d+zNj!R3Un;x>BDSj7:(F*3x_9&OW`vQ7mwh3%j:Jw9Up@
Jm;w[JOP^XCLqmxr$Kv_8T1cWnrP3=5;<@kI%EwF0kfjGmU)!db'mCRDihM5Ng`J@.Ryz7Ci[rE5+yDYJ%6Lv,of!jwPz%jt
Ed]qsU3NS|:@xk(lks[iM[b>ikCRo0zYj.JK>%6P^VP#QVVf0.#dl`88ePsn6;N.JTp_;vy$~!r4I*aeq(AWuh4%74#?gx:g4YA
0d1'cp8B#|H:VI;irLBac$~j&KO;GM`]RYUzd.O_cBYPE)Nc0#ef[W]U0;Sn.]CU'uU%4pv*7aFAloXZYr]05]iqtE5WN#<w's!
K>P+Q:CV_~:C*p?)d|Gx5&A-L|.035OGeq@N9o~|>C2=5!Ws$-V]n%ioWP30NJ/X67P4)O6qAs%Rl%Po?3hxsDYCJOe4LjEx-LNA
U0%q:@VF,0kI([Va2v)`@r#ovbWb6RIv'OVB^C;0'&Op_TY5uJH;PJtVjEU3|(QpZFhap)7'c>l&T'%;7nUL.]F%6qKoAC~
W,f)r~;#SI4d;i@h&QCo?6IYsW@sA<tF)Tsw')P3(v`5As'SH3ddy^!]t*zGjoIM-ZB[dYsVu[KkiuE[N[iyS|)::tC02ish6a0p
RX8X3>P,AYY4CqvCu]axv%j9-O,gL:7%n)I+dc7&>.9`vPQicA8!:!3Ip1Y=UN$aXYX]e8``]e;~FR7Y3JM4sY?D||[10l.;J3RO
Tf-emE9TAw-EWj;^A)q$M0<d2Qr=X'ztU95Z&t#gaeO`g0peWPpI2^W?skk2t5i6o24;;Mr=co3vS'pClN*kvS;8j/kqF~lLs5U.
Ea/h)AY0RU`Q3ZUQ%l&#dP4@^!HC?67jW%vou01X=Fo%x_|^Ts`O|B]0'pjPn!Walrl!Gj%rkM:-;yQLn4-:d7CXq_Q@/`5
K.&/.v-+5GY|y%))9q*99K[u|3;fTdX#%]OIWDOUGB2m/>wgKaZY1ho+PIcr~j@%CXrW|=v@-j0qpTc54FvG**D@@q7IU89I,L1
Evzix(ld6Y)fF]&0m%k:%kw$3lezAC'Ju7/Z6*Jo=~V?j5P0_|XBhWHw1EQS@Aq#'cru>-Cq_!lraV4R2CTK<@s4;OO3FqSqP(1
Q&u%WRsfNq;]Ke*Qg~PaVY^^3B)EreG[7kA,,*2#Cv!:eILbsC_KNJq(t85P7(W(8xc&I*a7-Uq'bAWXW3@!S4pPt%^vDN%vxS
Y-:cx(F2NQs,tE`:q6MVS=I.*13p5G@N=ms5pR'S5(^;174~`pWot>^0j$@NsU9|l),KtqmuphRQ-f=njagti<y$v<~p@M_iDy
6(p(KY*,f[D2y-ipOcO*4zD-bx^@:W1D/:Yfge5Q3thh$4S7%j.osa.vRq,xLi$[Vl<q/WI.RKaj0-`hwryT1!:)cnmDCkN64,
Sa+&4ReIcut4|$Yo[Y^oVSE9GpTbmU~fQ643c-EkMAFN)2+m.eI@LQh,*UNAcHgy9~A_'V:/)chC$(Zuc]4#.f@jLol%&sEtS7$+
MYe#gW@6j6xhs-JCDggu[&0OfBuX?<DWFHjfnZ%enUO:.g;HIk>EM7#VXNtK:T'v<#^H</,noK,TQo0XLap$]U|yHS8m(@Y
Q[#shmkZf5^)Ka_hmC:o~b@W#z5%'Y.uQB|%Uxz+'x<Ke??]D_@/i)4GI)yr!B;>CMn5ebmfw*wOp?!g4UXFKyt`mLN-d3Lx
1.rn&!`Xi6-uZzyJ2dFuy]4CFDbi6=^Y|IF'Cl(I)qTmkNosjTm5;9,4&Pz(bXxDAY+uAPx*`2du/lHzJn3l*:-dfgZDQOVc-Hg
1&(,nHVo7C%H1ZU#&2AF&<;%DNJ.SF5K%18A|dY[RuAp*m|gG+<,bUzPE#el#Ydx|%Y?~|Gw%lI_=8B,<J.U:!:LZ[Oz~TC6Dh3
Jtx./X,/^LSt1'J8nBh~)R%-!8OY76zUP%g5E^Cetf*,JnZ$A_srs.YN+R??=ET|)dK+R0'.%Np^+[6jHW8^4w(hpSfo3eh!F
Cx;q%ZY2Y|.5l@C7GE*234v/G~gz)WWJ7@r|,.+j|V_]*0,L2D$4,Kt&Gh2!qYL]kKg.yj<*f>htj_7@&k*KQ%aA_#v8nS2z(:'*
5>*K-|h6'[<u3/4e?3>t~;5|y|7p^Es%9q4eB;7>=Mjj1k?_Ygb8B`Lnlh`(`JhlmN|Pib@v/XuxO';y+cP*lWEP<dp2*eP*g?L/
Sl^d+G%;Zh7DH0W[%?eX(D#C2Kd$k=GR_*?9HfxPjW,yc=,:tq.|g~<-u@AWAK157~p`/)QKH/8$p7I;RH_%'SrwE_`r]0=7
M%b#b1qUE>5DX)pw[TD*B#ln=?WJ(o^nD`zM5@Fb#.b=Kir!6r+(dPtp8wlInZULh<QFg:o0=PZ#%7[ryxl.?CM8oOsnr&xYgd#/
YbiQqht&-c=c!v865vuH:Tg.6y7?ld9!pu6J]-%-<9eLTF~_x_Gmi!yCqlChUw3A<-+.d)$#^VA*h;[Y*'*BVQBDJ98M'S[kc/QG
1;3D.FSHhK9!9LX[+4'_]?'??eT=8tS8dkF)*|5>%rfc,QkhgSagbZ-&<L#:>Df)=brI'@H&RC%CDPHtnbK*piA's_(6H~%qA]d!
K<j,EE~rF5u_dS5Ih^|~]X5al6WuhdrE0DXC:`Nytl@[i4.)*^wKF~hElPTv5rRt`6a+(@~[K#Sp4kg8.h9pYU2V8$76S2Zw:E
Fo(FMN.:0z|;~PVuQ|+-1EV-Fo~j;_J.m!qOlSNILjP[M_Yr&xWR.v+OElE5v$chRky$%4-&#|A`M^L`Yf5`-TDBz4O`9^x3/M]
F=A%;@Yc]yQk=FD@E@6d>8GS+FI^1/@:Gi%dSJ;09x2J8Z,uAvkwhsBx'YH?]m(5Y'c/8w7;8*i(m/!-:veb,mzh=80DcA*Ab&V8
QfS+2-K_&:xg5W.k9D;Vo~VQ1$bf)0uTH_0$)kzb-a6dEQZLYR_t_yBF*Mo_84<3(2)?O7snLv!#LI86*qak1KiGd-',?|vyUTM
0]!!Y=h4mI2PO0ZEtz5_7s^^B3Z4.2|h%Gb]uDJOwCB[)Yhd!Cfgi9xc@GfH25Ik0XCYG['r85cbC=T|$gWF,+U_zPYzNd5/NQ
5%*AEtgVh$2=FNl.!JttZ,,-Y*-|q7ElQu>Q]v^I>ecdF(KviMc!tB.b#/kC%q+8~X:=ODh<FJB$iH]4(Yit#O0MaDF3sghhsm8
E[85!BYV)VL~*>'D`Xa1$|IU#*-:D5iEM),n;O~3lX&eT]Mb_+H-#_vy=_AKYy>ND^`yK$*[V8=*=A)F[2Vym2p'&DlxleVhJaO
2zOUzUxo$DInju:El;CD:Hfz9Risq6&Omw?RWBw~:Z98pE1Hcdt`7]2d2|6,n!)jtj,c[gJc]w~=**U_(]<ETWferi^i9E
Kh^l'|,&-Gyw@*-8C2PjGY8+k6v5S(I@AamTRPG96_xp)%_7NGDQF@T'IYy?lq`&Y7gZ%~5z~TC[dl#Rl^8^L6X&(IBL=q.NZz-
Zk>uUI/;eO&.U_[T=:It(kuCh3d(VX52]$SrpTAP&R&d*$l@L.HYdz%|OBi`GVv*r(](:[Va%=-vb9;GRgfvPvY9I4qYN5P*z]4,
7(<(U:B>T$]$lInz2dGT[m:yc[R2B9Sn+Gh@%uQ+`?Cc?Q7M?(?<3e/EqUJa,Kz`aF81:T!]a#_t@*'Z.;uT3pr`x30^]|JYCXEP
9iT^<y9/[4H@33J8.Wvx^z)sUZv4Gkz#!uO;OV></8^mc)%gnX+QUlxuv-h@MEBQ54o:Rn$noD?I,O-h1e|mg2sup7!qE~t%
Ok![n+6^kBniNNX`GY?63$R-j@&ThKyqQlU3IqWfPP<w<oc0sXF)xe.pKDRy<AAyCh].>+%b'$@$oEW]4?LC=tYv_6BrVWo>'K&5
7&t5MY(pg5iTa3Fzpq&kDEUnxe48<],j98-[,cOMGed&c-~l-v2gUte6g<DHw!m2r;x*-NzCvfKyZSzLLG[]R99]%y.S,Su.VOq*
B'`cz[M68A0%,H/]iROjP$(*XA:ce50Twx/y9<bCc?cH=Ye&mk8fv#;ph%TFMZle!'k-5G,mLb<<m6)~u$1-Bp~H|8Tzx>S`m)Am
Q/PJj_aS~iO:>1)b73;L0OBA3MQs2v9KcP$=X*Y|<n79`ib/u$rH6&8SN:K*dE8BlcGCdPnIV/@WqGBGQN`~!8^wp-TAS&^CoNgm
N6O@m2mF.WbLp4udk*6~N,5yMt|Y/jolH!cL7j`=NE:UwH((.[9=),,J.7p1muUM3&%I,uqx84S^9t)aLGSS@YuZVa^#v)2d@f
C$~$&w]8)^UCiN7VC'fP:9xkB|bu3OU1&#LT%)NRR<LG]8N__eL7g>tkg7;I7527aMdQLH^fe`4U'Mpa*a7`>yET+MI::=|)!P
3vxuPffG7NIXKw_P$n[y?M~htSAQe9`UhTEaI,YG^OMB$+Ze&[>U0osm'$a4'(52o8Y7`M%W-K2s1lEv~Ptd$bN[23DvT1A6s_^w
K;sQMhH*i$dgEh<z+]Na8`XD~cO(UlP_2>z3J3#c<Q>4~jx`]mKpM<Q_y-gx!ES_V*eF6k<y0JG15!9UgsHFA^po^uzM[$_a4i,W
U__f'ou/BumzZsP|)6ucrAFNfCL<&*nF/Od2A^$t+1DCs5.ZHNLh@u0rE;K,zm.Q/L$77>RXNH'Pczsr90)J*.8JfgUiLmBW*+T%
1@Y$nYS6|^f3@IU-7F-3;Q#qMB:zoQ.!iSOH;x>J,+k!<.K1;3$,`MOH#-`o%ykvs,='X`^Qa^A/a6kXTN=$_&?[l`T^$n=gm3R
8.L!b)>RAwpGW+@&@/$)V<h?g>E@KCp]gI]XDRO.-pRI))tfppSVm9BV$%I=$Z/s$',SZoJ540:$MD3MoA?Qnpsax#@q8=If&g>
Q<0^EfyDZhSx3jeDqp-E$+nTV.TM0jA~)RVz+|6u,QLJvWm_dh-3y+%[lV2[fRO[jZfe'9&1m2&?3)[JAB2t[g<XCKP?h`oLv6
N/&bQ&gISCbdV0!e[R)yhoo8)(67G_)5!x`X`GydP/3f+-f0Y,^/|Rzme&cvmGs:F`Kw%*u]ML<'nddhPU0vt(?Q<x'(J.L~6
To=e;#1|/QJfxEWnM?4%$^rLPCn~|:#^n~I=UI(4&Vvb_MZ|aUrBSU:!_XpG776hEkczlT;Jt!@@dHZHQ`Dnm,rKe@&Eg9P^Moow
R)nBz55|1510W;LAxz;PaF>?.gpajk)bs5wN>4]K.9wB!(oGOWB]B@W>s$jLiEfLI1uxKNvqvRZ#/!CckeC?D/PVcf|GrSl<JS2s
U~,4%!I#K(f^#7`;,fcKc3QsVZ:d>I_Jcger2*5-i@58jKl*cL*-?#zFtEq'wVl]O.|JE>+iHzI,,XmPh|`1`|)YMi$BR?Y.P,`J
Z`3%l!R1MfzUW2h+<)n.@cVW+8($Z/8)44w'^hL%u,WFN3B'/+L+hP&6b~.lyAS2kIOxWgXm;*FpMT3c@;0z+Tu$&gHuo,FV
1p<;g@GD9g:6%^3S<iU5nZls8!u|^#8w%Tx8nv_xzae>Zl??]|~9k&O!)%3!;G[#Wt@DR4mL7<5202bHi_V74h',?,S4#%=(&Z
X`#=A,R~!+'IZ8J*<!zs]![a+wR^+4_X(58q51]qls|5./mnU[%gR+3+2xSp[e1K&=;f[Utz@T|D41/gQBoS:JT>I=?6m?>s
1<?,wi7)M[kMQ-Y1/S=eT&H^_h%tkldq/^f[CHaE.H-xe!@21CRdCVpP%^JaTe?ksiC_b[KfzJt9je$1u7<fZKe*r/GLKqHd0s
B/u%:KtcpYLO;d*@NLx2ra$voBrqf86o3:#9rvE879TdDQ0[iBnX/1:`csbKUd%eZ//t.*`#?>j*;dQz1w_b6_>9JD:6zIX!ZAw%
M>##;JPT3<p;t;V1VdlD>m6)m>)2G8ALl/Y1hQO8*!]A9b1%$kf#h5Bb*jaW|B=XrJc&ejphy^#>>~J2C~i=|x*0vvaWt90X2D2l
N7vmZ6$2Ko.ecvrIe3wAc>Fn5fz?;4]f&1s9kWt9XG&JBdV7`'$D42~`eii;X?q>,g5j_a[S/stHg9`Dq8a-|dTZ@l:Um$MJIM
8cp='D,(/a/)')NxL_:$nDjY(5HbDn$tIbdl9%2JH^e%&fM-Ex~*&Hur>gj(&wlhC^k_oX_~JiACS5hUS~-vt7wE=gZ>EU'8p$6
YwK6X|Lk:^,?Ym<dD[civ,JhH+NWH9r.>c'6?^`(C~$6S|]ogZ]'b92)`8vOsngt@iIdBcgE%e;WAGvUsL@~I$;cf<Z*21qY$A
6==%|;=VE[NP/oTq[ejN&n*un'7`yf4^go=`a!a)R4b<4(s9|yyG3Ti^sS^$r2Zq)nIBs,ob;<WI~;`$kG:&XyM^h/6/~`r`FRi
NcJ?!/o-Y>7-[I.)ELXD2W.Gk=47U.iZY2KM=)H<nL8zt3CHG3W<y^ai-,HP=2QsdFWE*tH0ui;WFmSLhdccYSof3_g+!>Vbg
Ax@klMd4D3zLP!JUfIOX=6c!x)@9GAQ`@@uc8/1/*g?D`!iT@6Wp%Cm=ZKIQMCnPJ;Aq&z=9cCi~Vls;^c:j@AK]eF;9A_-d=
O/*x'4z>'JT&qXO#O<&O[_THLe)Rvh;CSYWb/rw|yI)r4QG^:p(n?FuILCG|?R9FcjP%p_^6f95ESloo5*x,e::w#HSYY,.%~/'o
Vxe:FPxCs?M2@[lk]MuHvciYlt(;a*/<h7a>#i.G3|%ImoS5nG.|xdMjf/Ww!lO$-~Icv:GYRHF'JD^tRhB$ekD>6NfPVpeiwb7'
9KtqL0::0ij=)9PF*>+r'Z];mxl>HjxAfS&XG`ab&3r4H#~9u53X[-dSmu_MlLw+[a%9*E.MoZ!1[CTyE$~4SRERtD^;!uHA.T%V
YHGq[#/6;@OoR`N2zqIxSRZw4<V($iYdq|82#x.8IeuR0*;2u.;pnZbzUch7j9',iHCuWl??']1e*I?j#qJGtdrvhFRhel'Yb;S@
Y_4ILxxu(.#E~?|Pu)<T]u~qEWm7E#T|a4YPsq0x:$/)G*s!v4`uRM>r%.CyBcg~Wd%7C)^Q#N$,M,/)qf(NfDDWOIsD4DWV2
J?vch[AH8>skyLEcm%01vb'a3qdHO1jE5=uAk:0E(rM;z9#T<l6B-D?r`=$K*o4#^]RVsNx=E)Qxfx.V>j)`lYkle*hLp'=5.v
Bnzfs>-W5k0n.EC%eK~tK<AA5^,7w=H4x/<3$_*B?[)f;~*7M_N`rISE<<:M>PEdH|Kza8/g/*NizM4dBK|S346ZT[/wD,a(DIi
Dyiudln3zstN``:Pdh|T!^zcn%;~7!`&3n4OG>7r+vRTv?,-f0VuqVhp0IYe6BzsX=k186SaVs),&W)!^BkN&)kSrD:g`RGuV
Pwj'T`YYeHd!?Yi[Ps%6;l~3bNU_'aC<ILZW^YT'J>LoK`yx3@d^s,R|4O5C9-^NL:zh:Ak81YDao!Q2GjYceV,%D@T&H5
Cwcr;n)B/P,UL~k@&]BqWqJI-|m64>P'r]sIjiswX&2&yi9@G*,Mg8G9^raR0Phz3;bgK&IEq^Q>NaB9A-w17.)~94qSPkEqP
V+k|h3&[3ccwX9Bn5^Hp|1wOD=2,T'q|va83Q,jRBycAnCh>G)P~1rT[lTv_NXr3+guu/-+oi[8b_(yd(yNIMCFoUz<_ewakv
Bkjw>8%PgpSt94K=f`,BAnf'xCx@#A|_vZR4ff<)|%VgA0jLL88nt_j=kasM9#bn]pJj3<R)Ls5@*b1'>]H'Oj0h<Z.I>o%Kxz~9
7f`~^`j`a;|=z'ue?DW7Q'V?U:_;&lwQh..B2Sk^6uh_IpxX?q$*DpB:JE8ri',b)vn6`3XI37/sjVgASO,U:0IuxJ?H$z)kG]n;
H^-uqo=9UD|%XQ)|ZhzvfZ!9L~mh-U*l:D(GaqdjCO+(m$Xo^WB6=(B+e$&,!gTG5WeJ4!Qj&#68MzzC-l#.Wd^a*DUOm#bJj(@i
H_Dd'p$k^N0$tN?5>--`GDK8^C@21;eY!0I,d&TixUuR5VK53E7:g%IQ,6iD*>#44u<]X2jRdjrR3WTQu/xWZQY8vH(ePn)**6r,
AY9QT.6ao&*9*Y-TlKsZ3@bNiX_<@qk:6,7CRPqI%dWDiG|vQK_+]Qb<fqvb>|(&K&c8z6|yK[kZuj[OF;X%3.FkCyF8Z)~)(4J&
AEoN/%/ani-uU)i,[=4qBQW'J_z5jI)^o)=HXA^QkeYD'fCn#Um`@?+Z]%sJ6`IEc0e:C2kQHCxSs07cGZJn.*oL2VS!b3]wjs
D;[w^B&5rx9~w`^d$t;Bfe8t-72w%o;OYu9h.RZbu@AbBlsM;~QyBUf0akdf:dyv$!4G@zyxC_bj*?>Tu6u=ct0%Z:RB>U$.9
Xt=+(A0ZjB/pV*4fu<sf]dW0#x]t%B+9gR2|.TZ;2m8N<'!nOk5(PJ9,SM0S~lb~#EwnAX-d7(jG34y-05q|:oY0LKD_gHMa6a88
TcXI584xVB)ZA5n?<0b%~`VJ`IPmn6~4#Ax[zHzQ&;$^_(GB3XvW8Gm5E-LpP9(e$i=+uH(=[?>xou|Y9!YK0nfEkUVuPp2z)SC
D>Xk:jsNJoIb<j)YAZ@[J!oS-1;Ch54i>8H)5d1IV1;UR~uqIDu,1VIjO+lYhm`?N3r?I>D9~JexMbck2<8US'bc<'cnm3Yf^LN#
Iu%JcIUElJ_I`kcX)8Uub0~Lu6;S:aU/1[TE%K[DWI86=G8-dU%t(#5g&>@DvPofCcR23PLtv03,W+64)VWN~Z=u<6FWL97:h7
Cdsn0nT)KlO[0_3Bd;|f[~X9:yyhQ*r7E$mRkBp'+|f<KE(q,Ip@=2b5/Y3HLdI31U%tL;t9M@,;ADN|SRM;L^ig#`?B|cH$%86x
35(TrP!|l>'bXhO(Q+0$3/H~<HXS+N8VgWKvO;AF.kd5qW=JL4GV9()[[n9?/D/=wH2PCNzs<UsG$*dzA4)Z5KuyDR%-S`+VZy+
D.UUg.nGTuYyjvl*ekCeLK-6g[.O1VFr6ev0'`^o[7fP>tdcl&-2_?gl1Z7KG5h8NC$I]1^tpsnU(/zx>t5bam%]FUV)/|9oO<J9
OxX<civD+E!QJk*agP$?)'tF'>3]@-Tw$zU*J>hC.X.nSo3%Ulr(VF!+vG/H)4o@laxdFiR<&QBKof%Ng:X6|WQM!DJweP.'xD&/
7xFUqC8=TM8GR9_S]P33i:[stk.IV%iV:SynwLy(`)pyjmj@^$,U>d#`7nC9<46KMQ4w3V_GA$$ji_KjSO!ABGuz)KsRvs3D;0m;
Zq$3A2Fb(Rig6h<LX]/v=-'2N4hXUDOJK%[j/Cz/&KQCOC@fH<VO=h##bI_3)V0Nn8SyAa:#`dRLOpEMoOhuv;GT4^=#6xicw>W
H~5D.Gkwb;Fr&AjoFHywq!Y|wbaT%&@~~^qMh)1H.0kvDz$17[v-l*b&7z?$$B1SZa)$8:'5,Hd@V?mr/Xb4'U_~;,5D~QjCH;F
RtAM$H8Boruc5L9p=qL<_c$7hFOTvtsU18lH<x;=k;pZF^D1?|Y^?,zPIh*O^s5xa8[0oxWs[+4G%3o4A&_T&/8:STe|SK<+igq
SpiiGtc18%e7AFq+=jqmIwAV`UAE<-3l,SY=q&qC$V|2*M*u4%Va^eRJxRNZt;;Ky`oS_(gM-uxw/gtO|M:IBU+|~WTaw8w'@
L+*dJZ;WXSbTf([uhzP`6xF58Ury'ie:eM3We-|_CW64N(h?Ill)=2:7=nDX+`c<dR4^f-[Jk:xhQ$T:`u/QL/P,FeeKAX_#nhc
H^%>9K7]f@KU!H&BVok'0U]EonsJX`5&+^2oo^(6~m:i&7]atsfpFjxIuMw-E[eJ&eyh!;?,8B5J?1bG`%wqYKQz#W/:~nXxr&M
7f53)w`Un:qYB5E=lkMysR;@!.'6AlMh(9QoO!aY$7BU.EpsbA>Ty$]FTvw%cJCdvmRR0`Iskp87Jr1V'Z[c]mN~N+^pBZ2o7
S'(@XklEn5OrzTKT2crLRbSI?k4w>b6b,ol3Ep8-tk`Jg8$cf4y(x.o3*aBz>v@<wS~PW`aBO[;F(7sV/Q[_<L>ULSpMZs?XoQ
O~n.*i5]~6^H50~#+WSr!oCrOb3HPOy;p7z;ojbVXfY'*EB2y#,hBcqnvyFl:AO'y,haX9f#(b5LVA/KU;R/mcQiw.gIwo69M/5k
I_l^C<$@$Y=`]AnNIU],eJmxz#c>:>UK>e.25z]&fYQ><sSL>p25(7xM]f!PVXm:O#h2hDHw'6&%7d1bOi[5g.NHLqJhLyjY'
Pe?x:JUv)<mv9OE.H%X.;HXz?y~AWL2gQa=5g?M||uLN'%`mF7fP3e9':x7|/&(Bc'(s36T/BteRDk;!z5VeoCccFzn%
2#>;a#h%@^3SjahKp>f>+IRm2|`Nf]-!1~!uv!>GGoAw;1TdN7D$mF|ZI~oFaq-^f_r@1mToD-4iT,Q`2DJ&ts7hGM?N(X4N:o
Qh=#b+J[BM]Hqc.x9*DS^8A7+X%'^@hKKZ3=i_Z/IW&B[!3U$%`I7e#%!$NVV'>PqDC/i8&x|w(e9t9P%]g-v(bHsd$PH)*'l
Nm/g2FOjr=]CAJw(v'1FP$aS'/>0v,&X(E#cdzx]IMXCP9)h<(MfLNQDEc2ICa:gxn+KQE0MHe)MC9%V)WwB[(lqLmH#~1A2
Vv|>yv~(q>X*H%#-q/f@S.lLi~Vo%:PuV3hsoz<.;99f'S^aC*$-()&vHs<<J[Q#1T8eh=-=cw]pC)YTd,<+XwXohL=9:DPwI
4o:<`DL!ozn9!)4^x=PsLwi$*5(=Yp:>UokZSH3SxIA>?,<j|Y~'@i10.l/ggD(k~_Gv9vZ'4w#eC.ZZ:XH4Li8I?YZhlFI;Rf|j
Zowt|^sL:e1B[b[W.rBj7(Xc%i`@0nr_OsJ)4Zyha_H_YJ>+Dhvf$<cnzk=(]rhi%RZez*g13cQUc|6KcU5wkL0:JSv.-8c_q.,w
TCh0<?Au`LJ5L'UcL_=]q09!pKwy0:]QLq|VW&+@H48_D9W:-<)#e-oXlb[!Dx-V|=TdF'&N(:[87Q;s2wX+0;$XtZG|X~0UNt_
G)%,6C'IfV%IB`r3l;(]*~hAa#ujL;>MK`//%0hAeh&;AF9uSAm!S|ufWp@3m;U;V|cO5>vnz4s0ybUx^Zvp3OW<);YXKkA(^+N
Rkvf4+I6~T1hN5o%+Rl6_'iUpNFozJ8/(!P.Kj#JZ3$)8Vbc~BJ9~(Z!sicEMXjlTl;$/FH/c2jKgPj@z7A@M!WRYG(~hbVt`Kzr
ISqm$;goC!y&5rN#v#38A`$3O~;N@nAi(;q/QHW+89J`6h[/MR:%eVni9y*NS-udyvh<6*W7t]oYm|*rwwZ7[S5.VGw$N,;xAps
Mwy=Sab+Dl*(u|uMM;~cAWU@1.+W4<CFw4VF2]oH]%`IwIW#r'-azpt,W8knFb`R@n=6=~;sCAyhFtd`|n|*wj9?I>s?TL.l
K|tqrH>m)rLF!d0vqi*7N8aFo8X:VvAqSY;'UF7[2c4a~&b5pQ6_Pw0?deJ)OB>dPkNs:.Y$NPR:FJXq0EHpr[3]w^7nc|BgsJ
1y+)*>.VqX+UP4mEZf$5mDBrh&ysK#6^TY>4pJ`&]r],Gitb*2n&vcivn][k6wzS*]WW:GB;ORBk,r<k(o4NFR^+bJlDRQ)Z(7
L/?d>Gfo@Qwo.U%JsK_c0eFi|#!@B^,i*~dxbJvY%zR%xLl#NhRlz/!%xb;h1g<]$')<@1JfKx.?]!zb+FiR@hGVT.*eL#TIX@?
XddeMc;3P*hMF$M!Xg5fYh4-ZT^xX4GBW';^-cVDvoOTn/sU8Qr[L[=3nlyH-!Kuv)HS,hXi7N'.uA78j~`*KM)>~u9&J-u~K/m?
Tu|9vGGsn%Xt~^Km<!~gfHxY^fe#4u5*RR37%z|@1;g_bpFc#).!y@ggRw,?6~>Fwex>4,`AAU3P=2]C^&o5t4OdRnFuoqH
Di[&,'Ot'-0',u'6mHg6GAJP*L_(f7$J+806L*Z,[#sf8cYSetL~N0lT(4eG0hW08kb^_29]!^AXFz<^2bZ6-jW@a/vC,u1/0^GL
Z6K_!KR@^IY>6_Jg;<MP@bF'Xq-HEz814$A-+kr?9y*SMN6/J*:Td8[13Q@JWu~yu!T#0rEYh`f5;~<]k@D(rk.wYMhSI'PR%m
A,#yV#eIQHmXdCO'nsvwO(KuRr*]0`;VYf(87-o-Qxd,7m,1o!43p^SyEYXXX;$V?b.i[v$z|I4/v'jvXDQp>Ij+9v?@F)?qaE
H#>6#QTNgD>eSE#+sqp`%OC/@f:of:S]>;E2x@itqMYrtfChXqXY,V%O#Z0D#qVCY1e/Y5H,C>S$(kWC>M$]L'7Jk>w!T>Bz@G
P!#jyl=%'P&m'('GEBs.!&)VSd2F:h7;kWOo1ieTM/:%|v$QjV$K(Wi9Z,jNN'OF3<qzQ/cKoLG5!~GA+%F+1rQr_V:L)8huq
A%b:+eW>32uo^K`@M@^#aTAeS;o;q>,=Bi%*;4w%od#0-Q`'S^?0sq,&rEg'9uzLT]9&.3!E.h>n(4Qi3i`e]Of!sCClx80;BOV
4hdn@ARpd+yQ>RDO@~F?XXXTN2,$7CgkYrx<z!Ln1U:kz_K(2w_=-K.^%RS]V`8O,1^V]x_#5LXA/K7UuG$gNPHm&%elGIGNK#!V
YqFtD5UqR_>6x@Ecp/%GPv^|)XP[w)koSnu<brcT)&`Y)ew%4N1_8EjigRVaxGyl8PeU'vTsxj)XVy~w/z%*F?.8o+kI[+Ffyp
W&aOmD1E(:Y48w1%Esf-FV:^l.Qi$HR?xp7T^rpMz=aC](BJ,4dVx~exvEM-PYJ[si.79a;,MccU0'Id7[cy[Qt$:S%>V|$+KMY=
V0)Zk!c~BGE#X;Q&a%/#yLyHIVJBy3+bP)2O9og[OvO2|4tP!QrM(G[h8,DE^JiFV:g*`!jr<t)7G3p*u=_~#EDC^#8tt=gNk~5V
Q>3T)>@D8Azg.o>*9<gcUPwt.]a:cV+OO>B6$&*!=84Ct.IM*M9U0#>an((p+#UE]SMmV9.!E~dn0#CJV,v#uN*j>1a8eF?xp<!
4z!;>mPgTmi]X$-W3tlNO%]!OU(fCq^0H5^1p9I1ilUHD0`^X[!rXXl=n%R1?yxosf.Hcn~5WbuM_@b2O;zzFSNZ|J$RR8O!U7:5
LJq'k*n'`ctHDknSyrhPVj'j~~,mXkJL6cj:Y06^dar/my9z2j3%^W:mL8FpNDgI.~UEm,Y3ru'@f.$NqoKH>__gCuCnQ@LqkQ:.
HVZlQ_t=66)'ha6fE)`=8M(~aeA<`jWKjMre+04g|^b[tsU`w(aRE(6`!L=qP#.'pn7-*JoQ*]m,KGF2q60?pgN)A!',[baZ
7><>iRqir%,~t!?9q,e;o`%;cQ#qFqm1R8!St6U_BTS,6:#m,6?0A1+c10L0lk.qU]aL3U=9?$j<;5glji2om*%R9sb7]ab[H7oe
EInR`@b/Q2:;N[|fGyf+;a@XZ*L(BvKtRsfQ1.R#=ar/3J2:Jx<C:P=#!TI3eUP:Q-Z+#:fHhE7N3J;QEeKTL,_3fRJl)&&-ORU
Zf%0Zu,9H~m.<[Gb~sU+M.?~^4B>dIUvI&)WAuCE4!L:V(L8j|qd=E1Ed3DQzA0$M5VRF=zq%|6*dnckddN`h|O^kC><o>P
1k^'[$@TD-**2nI_Ks93qE.AyVv~6yB[zFhP<5iGc9_Ak&o0Ae7j[jRtZ%auA-084mh*iXZO;^ZXob%8$S&>BDLv;$$_YQ>CcSEl
1EnO6_?!?t8|I<Jx)p(GnVx=-4'9>fxk%zi!P,lW:=BklQ!,mSli_OT^%b`>Q+1kI/J1W(.GB?UFVd8htpv75@'EQ=y'_lw1`KpD
HmC7Hq%NLPGJ2h7foCr%/N&D8Ig_J]81d+&|`f$wIr)?``pTA,Yrr[)5teb-RBHrAjf3tI0PMNL)4nE0i2_w|lcfx!Ef-7A
Vq&e'jF14r-K0Y/iVtj@K|mXH>:?BBk%]pKFxCxx_IxY&C3<*tqrvH1]dn:F`)T<|Ah,2_WMv)h78s6+1_:X,9>f,Ddh_C
0tm(x<?^IpVJnTVflA;p9*?b~yt,:x6xY$ss,g2B1/e1T7q)tYf=aDc[5?4qcD3ASi;Z+@H~96YB#G^lYd:E/>SM~)A?ElE2-Sd/
Nd_(GEcK2lxjR+h%N!FJas+6Wc5JJiv'ygvD0+x=~pGJ3!^L|&4I97dmT@146P@6`7<c[JsBV<Jsv`QR$_2u@2^KNp`o!g+D&l6
X.I12*]O3Onys%ka;K><mjRtE*vfe`v#B$Sd0+Roj~'(TFBKer?]-TBQVgKLr2pjpN$rCCUF4A;%VoW^UXv0B']Ob+k09sIR5`LI
9IMm5:5=0GA%S_94.UnV]&q^6D7|orGIf@Jk1p4D&.v2ZU@8E]E7%!>~XV5Ki;/5.@9MpOw8/N@h3,]4Cyo@yu<^.yQ<SAInRnfL
5M_`ner70QSyBpRP&*/8lQ|Z'[Im+>9.dfPQ+x^BzL7J<bz<_oRK>OiHV|FF?apK%yb)#C%c1H-eE|csh[$5aW<fqtX+Xbxh&`c|
J^qLn*7o>gRRY<(fZ-@Lb3(L<_P:e$P=~'T#,6Wsl&qGZp'S/><8v[ZDu=meyesyTwFx~h.S]Uhr,%b.vn]tTFB)tF%s~>0WTpj]
J_fzg`vec#9GEOB44O9Y3Z@5FJ#b]4vd]!*y)0(h/e?Ve^jG1^]+uO1DF]SdhbZd>Ho3sx@g7^zLoRPERFJ$/6%:LTYFO)W=S?M0
U*M*zz_l[G7W4G%CkK/)LPDkX6&+<M%T'R^I_)Y7??n8l'Gl0Kmk3~Ghpe,7Io1J2(p@y0[XRYdHn+?s!s[(y0t<Ze>MU;((]@K5
8R2npTYWq5Q[r]qCqWP~8J<$UES=,_.-bTgObp8`Z'(aq@1K4U/a;o~2_O^E24^$x'a:=dv+<lwH~3tiCG2ueZc8|Jkc|-XB[&C~
K,;KZj&j]qu:,B|>[d8iFY|p+y@7gtaq9rLcMHG5%v:2H1~a'W+po4o2Ku_7d*Zl2l(aj$Ci)|[T4S6@K9EYmX;siCk5JkvnQSZ
9pO0M+0P8T6s;x80~l`7=*Y@579F2GjzC7wk30aomtpESK1[XwlbvzCNwA!I_o@eW`LK)J)wFV~DlVwOxR~'Wb/U#:Lhe$#HA6%z
0PFHPESk0)zGX]IZ.qxDM]<PD.7]w+_?1vwcnow*>v#<4W`fbFQJ9@>>rChaYP?7t8xkVE$M'Ko#S5WAwi!5:+38R?f3tzfP@p
3wyF)xb'FeC2k-3?JZ_Ahuq;8[5Fq_~`~Qd12/z1qJ`Juf?ePGzctVsY9Jk|'E!_ut0]*Gh|x5'iPX^#ojoISa;`7S5xr;(_?B
F,daYP2QMOqY&2WKR/.X+dXSKw?Mh3_f?=[KR<]khLoP@$>;xwhA%0]Wn3y$od1ek|U.J/^Wn=gOzi:m4Q&Tq~!Q!^hsqWXGcpoo
3ClMscVB<7fGlQP.R!ceiaz9*xVH7goQ3_pGkAPx%Ofs<TY#aAds'iVd,TL$j>Qpi:dlTxMX+aPiC?8v+`xz`J:?5+qRMzNDT
CnjjRtZFga?P7]TaK#oS2@HF1&3*fNJMSK8|8#eik[,!_>O<cWi*1f56e6#a*'Ic!!xzTW5$?6XUo,*UwfItN+;2Q40*U4Cu,w,#
B'gwA$juyHbAEc>MxiD-A$BVAju(~aD6old#]E-L+J;K8A?vM/c.JYYXktY3af9IB=9T;<|n!Qm+&&FA~ao74M[O?#TbH*/C
5y:t:Pm+HP`uVq>Y5$v~=NO+,:KORz;z@S<k.rZU`o&tct)~Wr,~~=%q]?<ZV%c#><wTX(24ER-k#vkC)6<,#[-9x:8#x=0U5t_L
HG2Y(P=7D6pBrv3Z]'Fgb#BxdDf#9XiI[4<5batJ3#7K11~u-_WCBgUg_l<dD&mN3FD/`|0BrWLHa+J|`HN_e?&KFQ=`g`|8&sN
6(->8]0#sS)u[GK)=3.[/ZwCN+`Ng/oBIosq8bHfLHL3R$BuTPVi3JO8hGCn=)`=ikkStliz(xRo7fOio0X2lu^a))N8dz,r0[n
4r(])m^z8FAPT%AVRn~=@4k|0%YM`h&`Du7.>?hhsDR5;-CQ^f:`V=lPZ?H!pkt+>D!idX]WN9&2Q~4YV>yV87i)vK/bdFer?e?J
PjNFhn<9svtOs]UPf9Sc7P|7s@*u8ujM9ko~?U<SX;;zWi;.Jz9UOuvy&fca~!l~_0N/-.`q:voFx%'z#Y|~_%ZBeza]`z2V`
Dm&eush:*f(0oY(t@_HE1^~viKi'.&&(8FFhY+:m)>sAyD#!`8zd9k.zo1?S4+Qxdz67QP0o)=%VJ4HwF=]#dzxc2Oqr%%I.
3;)_p8x[ZU#318u_6e'^%i0tTixbPh-BKgC#D+Mr2>3.ZJYGh1AF5N%Y-=8^2u<w#j@Cg6NZuf%dcs|@(z|Y;15S$lTzO($&@3U
Mr/A1avZ_2_0V]!gg?#zE3dBngM=c/s!_h_~1t:%M%*%,X&z1Dw]JTP-qs(Fv,g[q<2NIY9*;Ys??:WK`C/=3iEA0L`ZJ|3*fE*
RnVLB1iHM#43i<'-xR/XuBzu<1oOE|y:FsT*26@zDXG%4XJ>0NU`Y0bI]B6MWiYLVNSz(Z<nY=~_<o*32Fj2H[%`/KpI%i!GUy
Nit7+Alz[uT?pfd_gg[8r2*oANdH'^wa,T@lEB*$90>D?qOT!rzr_n<~6alFWoL&pk=.xP9.61FoU~w$r*XR$hm09u6[?a@#Q?|b
FVm8l.[6/KyRVE8Op$VNH2.*HqkdyRDUt_Y@)8r)^lpl'i!)']$AGp$-n:@<u&4.31|IyPz(3UoTCZ#)zV,2.hxSu3IwY$n<q
M`h(uVW6L31[H|k|xLyc9Q(=/g*h<Lo~;U1*5hW@#mT)&UI,m|YyYDr0X,%=&&YF8B2pb!1qS3>aj/,r`]HTO8=#D.K~A18%A
J$:]QxX=A94[bdpO6&4WNMj|6mOO`[mg[;k_3J+7[QKMBD@rU$_[JH16MW+SA,z-o!Bo.~Z=CpviGcVLgfjV!U9]v
S[b[u#(i-asi5#S,=V<NkTFD)y#2ycSB:QXh)*p/^3-7o|WYNAa|z<`Zw3VOTEl[&ps(4~IS1%yo,/kdlPb'Yc|)eQ1in40?0?3
7*B!w]1EZ?,fGsKp:do#$AM]cXM:-V.:E3oSR^J<+zYQu$+jW0`P|N8B(5aE(U=TJDRr~!N#/@k(t>_g+3@?#2nb1.NmGb-%O=
U?]kz+VRS//?Xj%?Oi!D^crQ&^;)hQ-^?5(Se(EF6y;b=uOS0IIazzOCJ@A-~oMnL!O[[VP-?rE[k!'pBU,kvhj&yQ)_VS<B3M0_
MJx>=E@GT*^y`ECOP3WY-aN7wW#7:yitYRqG1LmLTYr1@8XFkPa's<.R'5YjPvz281ez0e)_hd/'Hbz;5,V;&C/|9Vr5QBXo^
Yhdf>_u]F2F6htcIA.BE/P7?ZTDW-fN|+hX60;_#Sz4G=w<&PREZ+#o`:7tIWzR5#Jx[Kq8q]e!Aj66+h&.Q$N=rMAkryQ:~|IU
Eo[01WCoHpT4S'L`[aY>$VNKPGeH?uvYvMsQQ%Z]pX/>c$B6;jxR~6~ekI#mcMnJtP;2Q6:>Ge~zDt<n/rhn'*q[l#ks%q1DR>U/
L4In<KqXbEG~Fsu7t:?Emlx/H(:>qU`6NbOx=E`N%2O&EHJ5;)=7_j_+?Chj>7LD$<OJY7?U4)1,7vWYB:|f,wTQegw9HBgF$
8)l~v!pd1YIyJ7u-2=wDOrP+A09V&rp*ImICy/OjnjHNaq6|m]o2*C_vA+h~4OWsnl^SZ#LgVe>*(p;YnQ!rAPR]Q[H]U%mT&kh
OcM!Hx)CB*t(]1h|uCIGP)t54[(jed$e8i|iDz9%Ha:DOX1IFUkTz3YtP;OGiwuZF=Of?i6*)#9DICjnQM9'NkWRi!0tpbVffC4
Mps1`pgSGznoEAw_lmrW^%B80T`JV.G5*0-(jy=(B;XB=71zr6R3&QASuXXV!fE+tuEH+vz[0=|P9szJ~LgBXG~:ws<G)aJtcm
9]p`M_P^NTP7>p:(Rer:6pu*U<F@cgi(dwI(W!u))h'<2(+oy7L;1=)[QF+5o5?+P@<:]B^@PKw5PsJ2(e(4Xyk:x-/?c-Q%$!s?
5A+za-X!a^F/ho`BezJUWc+bN*Gk0pKXl@+,Fi=*%H*u:|Ttl4(w|b!u;eYSa2'0nfvJ-yb1d-QIrntn0X!m'64$%d>/6e>x;Z!?
E'nq4sqd_[mq+Z_AC:+sv;]6KsL4J3YmJ?l[DoPIUFq[sFu,BaLm<0_8CoK3W5>5d+zfGgkw,u0L/<8|6'Dh^lx92'-0IfeYkdJ%
I$zGl9fMAr*^&LX?/5H%$`G(SEASA3yr)R=OtqJIcF;t)_x6;LVDfs'bTDUT=]7`r/R#I7x]G.?lQ5[=FiNr7Z6;a5emNJ9P&1<
Z*[(d-,QojHTExb9^ZzeGJCSSl140.-'RSVx0ldJvy(nfA|DO)(x$I/3b!B0>V<#_(V|L4+o3E)]H@;d;~2G'dVM^/^#l.7g7
Mw=[U/',:EbA7==hdAshTJD_!Y%;r17XZ[ICo|w|H_(=SIJ1r'sq`<+zuY)=)qg*Xq(e.:d[+=E$$wDe~KWE]#k`qVNQ(jF(
Weoma[^b_Po1Y2F/C>CqN(&TUKpTB7O@89f?a>(sd<X[b[tvlo:DUOijebT3m8NN4&ALmt=$VR#NcSe$9]l|]e_]v90tf_0jJrhB
8OQyf6Ec<0iVIjaADwK0_Z*ip4rxc%CGV8uAe@#e?uSZs)>j6&jjFdICFK[Y$1!@>E2,2Uuh<4(QAK,KHB]<K#]sqQ!hMAA
K&sh%~Bf,qYWL3,4IHSIln?3uYbG3ipWkN$,)MQ-'d)h'-zr@o3fbvt^IKd-.gigLoks^J|w*-g'NZCgBjB.':z$<J88^~F>#?dH
A<M=d0&ul/q'1xNXa1$p5!|[z2;U6IF9(nl4~7mOe]&+([&G#)au^PI]J5,w4%@C;HEE-i9/7ec)rX^(0i)4*O4RrWBIE
P)gu$d'?saim@=5XNPFRcqnj$U7m=L?/;qwAqUCwPM-BA/|'B(_3mV4H)>hPHUfgk.M#lHabGf'eE=''Qxdl|4W[el>R^4XYO
G!xzT@@qDM4yJXeeFrG$,3>icg7l!F9%#A_q<r3v=1(.~VR[sxcQMjEoWl%Dv56q+CvW7Ql+5>td>b#)FmI-Q0bx;@sppO)R;~bt
SQ:!Go0KGf:6Sf_:u[i&3BlzG3<e'E7.!M*]/?6bL|`@XOqv&e*8|O_|vP!OWBDc%YQ9&y1=?;0)7yQd(6`b4wTP!T:o#-Tb%OX
9]`M@cjo3XkR[fPFZ?Sl'y<Y0q>aJ-[EZ2gHJ;(F3Cm$H3U?3d+n|eeP04-JKUdA><k1[.WFGU,N]./pbQbz.9T-X5J>)V._PNoh
MF%'aWXh@&7o^z[S+GL|9Nz~^:Suzb(-(KC.IcC!Il4oA-/r%GL9BCn_JjIH<|b~7R!63_M9r5Wz,`U)PVI|ECyg/)^F5UoTBz>V
Z.KrY0eOzoze>f2|>%Q!pfB?eT=P$0d6'rMV;[K=jj_KA]/nJqaW^AtyzraN(0^+X!>(/!'Xm0h`BU1E*]]YI0b@lP>S%IRvtX
Ac:HE[_1eo~uN>83>EJxyW?&eFNH6'GrX?=q_[VC;dyIq~/6eLsYK=x8dV)WfK/RWysFTEB^PV=4e4l:qMZ/#rzP_|QER8iK&k?g
Bwg-oHH62YJ=.hqkx(Sw#>Z*-NdA;Rdrb$+93H;,^p7eFWs/x>ypbf4@r;-w[pw`QiP-R%EH,f:/uU)a_=)aS0OwU'_yE(xR8nu$
N&t%,U1@t!9K6<n/OErKF8q:nAy,hQ7=)|i(|dV%or@8_y@aLt)pWpfb%`#f5H&tC(4'?+nmIT?8J7DEUy1J!Z>FDI@jA8y^2(WG
I(^mehq-0dr|0CMeOb6e47S?BGgf2g#7Uq@Go9+Ik_bqQ)hfT<M'Zj7aX]1A46u`ekU['kUODhpl=o.`>Yibvqk'KR$!BO8OV
Bb:=1('P3%@.4(UKqz`71KO%CXT<D.lnT=#.Yfpo806h@Jk4~GyR'w,Vn9:TZsD8&u0Yi/;V)ak!fSs)F]kqCHHwwl7*;R2YB)Z
X*Ce)%fEnV!g4#$68|G*E#NfM<2^gQ!Rl.3#Osi*!N/]xVldVu&!Lc)HEWLYjG4S#:LQ03JTC3PNee33lJ'!1Ng#<gCNwK6aV/#n
7D=kFkMLI]:BYX$*yUqh[T*s'$/J|U<?`ZjrDF>+us)xOXD|MV'E&K]vQ)M36^!fowT=IJKX<fipg4VK)Pk+]0$uKCV/rq`HEa](
GNQerNOJ.0|,d]h&PdI8^5blM2g;5#TU$i4'PWVi8Pd5svxY@1!=iGU,A]Uqy8QgaEvI6|53?fF0X#0_MRZyPDq*Z8ReJ9k6WGV
InVHW~~eh+;bVFQ^C%Q_3S/W3E9G=atX~~?VAC$TuIom8i)=?/4yQ2Z_xQ~bwx6WhN4v,n<`Nt)MV^s|@N9|0VH!=.ycrgzlZZo
G<+<AIgQ[)]CG+$WA/?bVT&n+ZFk8Gb3jzWsTma#Qm9Fb5rLdG^cU^A~V($[,lLt/Gz^*kZwOIn$)1q])68M$3sy.PJ-,lvL+
O%;?3xuk[:OFoWA(jHB:u4|HpLSBwTqO!#9zZ26.nw:WQsp]nyid%:R^^8=CDC4:$PfpL5asdBrj*Bf*!zA=2|G.+~%GT-`M$
9c]kyavGI&Ny`MpXV/|>0q?U(gR/HGXa[Z,EZNHv8F`S5karPCu'/H*`v@gpVR#t3@:Vd:;exOH1d3=3Ct~$>f$EBf30MY^-0)
6$<F!%nPdEU%v!Om6?<O=T'Je7pEc2g&7]ufF/OXcs=oTgmt*_quZ#XVhN%]<.sE16u2v=~31<Ew^uEC>)b$%5Z;*Q,<+D*G
K/@bwLU7i.5R!]0~8^M;jzAq#iz0d]O=S_C/RvMDo8>CSH7dtpHK1izto3Q,8ltSq$D32Suxi]b!PFZP0iGH42ocK^N(qTUYoyX1
F'1oJi(3-8yo/]wSW329fU]J6~6x*H_OlFKD1P'N(_S*bZe`,0EqWI3z|BqW~mF.fvJUpHq=a!^Q,!4I]o;_q5=&UX&Y!7e@zQYX
X-E+'XAPW[q]~lK&r.9Hl#r2C>lz)Q*~*'cn200jGn[Hs21_,i?$dLz((n6sl^%pQ,JE7L65$GGWo9R%<&xwVXL*M8Y7~:eT[e
V,_DicAlI7<HKay1jGS5[$#3KVj08grsCKi[xK)@~JowKTW'18kX0O4b1W>3/G|6pXeuI8,A]5*&E@#2>k*UJ[uHt8$Z)+#!R4s
AhDNG3.RF.+DjfO$aLkGb?MAF;42tn.N?`2gw@S4QvlnCLU5aH(%uglDlK;8H>d~]7=YyP_qv11sc1Q&$+Rnz$21il/%n9VEdZT
D$Uf9&)cEa|*8kg(~<0kIwni5V9cxEz-HX?Qx_tEkBz?qY6f_-iy8CBrX_]TGe0kHutX@7wT6;tjBwkFHv`P7=z,`d4=QEmS*8v9
L@'h'&X>7#,hk?5<SJ4'hjp1/6KTw<ew>C#IfrV,Fcq;rdaf&KFSu-3a#e+:z16H/nu2/t]1vjv9&oaQNkXLsyNLCY]E=su0q-o
9~rTv-mj$2;]X(Y^@mbN-E&:+s|rWJ%kbOM<wKR=GenoXbNX,:Zvd$XZY'>V/xpMH*@"

end OpenApiClient.Text.CharName
