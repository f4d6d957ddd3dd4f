/-!
# The characters of East Asian sets, packed
-/

namespace OpenApiClient.Charset.Table

def packedIdeographs : String :=
  "
 z,jQ=!3y~VxZP63[`!u-d#duuFP,%&Kp6gC7h-K4!bp1@!E;~jq!]RXo7,RwjK&l%R`bOW;6Ag?PjWImeM=L7IOA[A8veA!L
Zpb_5|rRAVu6=_50L-gbuv:pHB.ElWEwNA*gjL1d<WMUxM/`(bEiZF8|C*1Dt/sGpTbf@cT,&'rpM`w6!=$t77o[vTuuIbpI
S(zh&HScJD^Y2sn|qZ$UrfUxYG$:`J'~1&:9`^p.$T)C$H,FsBqP9%pW)G:Qeqqm]:Oj!w[q/TVe^i/p$O$%|gJN3#6Y(lP#9bAz
Qqm@;#2K|RZnD9@[@TZ#xWbdM)n0<m?;>u1n/q9NdQtIZ(fFfZx%mq6Swo$6KGP;V&>~~C4N]kmBAKO]X.#^a1/cdEB@]?Rmld
7)v=7-IWWE3C+hjg6:@-)uA9PNmNf;K*~K.W7oV)+SA,Znoa/0l/ey<?aGlhN?fS;LorV0/n%P/2vs.P7^MA8n.;Brw5>M=fe
0]d>%<QzM&Rv*AoRH=)B+*&lP7XwKyvcY0:tGD`@,hb&KDgMWx7ONTD[z1`Cs:'GtN`-E'&9!c!Lxb1zHp0]-0to9$nC9baQX~k
5z(z9J~iX4l5yNJqHDj2-b$zFZB!]Ym$K?~KXN1(~o)jtR/JTrJF;E8i4~SCjM<9l6-N>e|+Z^KEGz|n|Jc_|qM~[SeH<VZcj
Tm;*Egb2d]#_76%[AAhz@08Rp,4$@pqdj,x|^|pN5)O/+Ce[EPBqcaLONe.oX,VuaZLYMP_'e$-Q*~87`ts#4Q$>QEP^
2g_<[#q!s3a*^z1z+rc)/)v'cvx&P>1skg0c.GN?%;u:Rf&lt#]Dnr;]^h_A5rOH$uhUew~4l/:yV^Wf4lz#)i,t<%aX)`3WY#*
6+YR8lMt~t/v**)[CyFn.l(/9e,08%;#rK)tlx!s_)jb>vjaj[S~=*.]^M#<AO%e>nxU4xQ~`Cz&1&;A0'Qe5hJM:V#oKVn1xbM
K=B`C:.oDwO$IBz^|Um(E|1bQGpwKH+hm!lqxcCsRkXWzr*&2bYY9F<&tYQ1I:n-28G!YXi^A1Y'FjBbajp[yfA+rdz/yX;%$MnI
GHh2<m~M|?!WV=wmB.7*fLF#?dC;Q*|`RAvJXPpb(8w#zGMKs~^@.Lypvj8`Gw(K8gR,2h_jyg-QFcO(BzYKZdba!kV-4W%hQP[I
Tt*xEcn>~eg.*`YNu@o)]q<NT<ixY(C=^t00t-H[/xRb=yJ6<;I#gf1S?rC,v5xGON#+OGEo)/YEVGo+f.]M7=vg_Th92J/XkD7W
O+Fb@4hdzy|+=l;/g/<Cm4e_F!qs9M7RNC;rY3[#@YK=QTy!G|bSL0*Y?~bcju(JRh2-5<HS7n*DT8V6RihSIPe[vIH|/_h4d;>!
NPNqCOvI^gIY6cST`e#<M(jnggzt;R5?8Ph5[fV'Ackg[GU@]=T_x3&y]!i5/px)[mJIO/3-b/j15GYcb6^LPoZ`v||@Pa9))JzH
Q/Us)?g?zwR<TkJ8/rdW/?KqL$~@eTILN!jt-TEit7]5V~HV;oFQ[`0M[FIdy(6y?5+9W^U@Ga@a>xv;;HQPqfKl#cX$zRo]UUN
EeNCl:'VP33*M-q2vO%!bI>qtvU|D[F#96~pwV+.<ycK(cI^`UHQc,$d[-1C#!mrcId;IJ^ITE%H?1Z%9Krv*?..G7*1h:@oXKcu
BS4MPs+Sgi[GbHtF_&8cX&%7h7zRl9GkM|CF_wQ!(VDz9J*-GyqL~c-#Ys*mevE/1,a:O-Jf]MAk9v-N[8!LW7]*D(QN*YRhV
Qp@v/R^[wnT,*kGWdcG>>0)W_sSxeoc5Q>=#4jN/^%)[;I_%Ue7P'?U,ytx|f~C5DTL+JR;F1c-m$<;D!8jxz3|h$4kq-uw-'/
9]?IZ25[JY.|!H-W6K@y;#PVlz%#kw(`Tjx5F@:W?=o4x$xlIKN,i.y_;2]7pinBP^&@b4kRJ(L8o)n.&~6rQQ6iL')>,#.wRIm(
DS;`sHH/zl,A#)B^$N:KyS]At'2%SO<S)^(GveWg_g_n[k3-+8rh?s'*xu3s+#Vv.H3BDT|a]Hgd7FK`];u$.s0WsP84LL$&cD=
3pa5zi6(rpw_Y4nOrtHXn$^YSqw:kj#X+[ZXaNI+GCPK/W[+:_^KrvL](X$y3!Ab4:l<%%RBU&xo1ZcW'AL@j$-Kr7LaLbU0T@P[
A*Qp[p5(MeN2/w~29(iLk-URzw](|e#PvgCcgK!mg/bY*wkFJD1lCE`~?d&,IzQhz5y2)HXD'Y.NNWi^Qj42`bR^R;|gs`+BBBK
MvU`201f9C4|r9RBk1?A(R&`;U>qm*E!b+bm'WjtpS3bz+oc!4ImLW-o5CCU-^x&rS?@*p9NQ|K/E=EJ=LW%iKiyR62vVU:NZS
Ez&<%U^5k)].'w`0sv3?jxO6|!7bj[)*[Exls7hw94?nEeL`STT6b2U%aVUZS,J,sPXwa?2^e*mVr(er;>!,2woA.C9n%EcDlOS
Kr<&=[<Aw`<>S6kNw@MM64*Sg2TYIJt6*p:N=+W=Y.nz+&rm]q$dIYO,bVn#/C`VoUOk94Q?:nq`waeE<!Q@GS+M>YP7Pj-B!SR|
ZVKD4lDs!q>Q@FXLK'#GZj;Y`D=g+$<cmt66p]|fSIx^1LQxnqqRf4rUVc^2?5EXc.1peEzTE3dF:KOeEhIIFlK'#A360>G>zc
CglXxg_e_;Hfv0Y6Ob:P-T2Pfmv!tTacy<obOgu%iO;Pm<fzf.7cK_2m~:x3o/;NmSp/KI;=KTK%gFcYw8`Ys7R?!bJ,Nn`Y^8
F'p[lEq|8*-&8-xaCRua'vjW*kl,vKIsH^+T@#nWVxsR?QuzQs7sR[S?Z(!*Y&n4?>[bK&E-aJ[$r8uwW'zG%+[lg1/[?2Mv+V
Cmc~1%+]q?mVosiXDDz2QOEf,jD[gM*m$2J[$$s.b<'rz^a0>])bX1W#JmrC*2Jxfwim/@05)^C,Znwq[`UFnN<Z@`]1jd.8!7f3
B>t%*@#7EX7:zV-g%j~B0xrrQQ>Kl7mA]KBQ#Jf1qnY=-S,[J4#pxuLqG)w:~Inf.i!Tgjd|/z.(Nj]d4SSt6!UibsSedxPWl!cq
T3)hEMYS4L?<+:E(&aLY_W'-ZzR^h>rr7Lh8<k0.C99NqU7mz>,gC5L(rXN7erI)#lm15!sIU|ZYj(|5V@'QLQu`qqH4wCROpti
Dt^fOt<MN(DuM*@T8'_VbwpWWH0%.X)Di3|JQu%40C())EO+DsXeP)*L9>xNSx2xmsUG88YB?PjTpTZnV6qD~%*q'Qf5n
Rg*<o&_wXejZHTuhuevwLvAcfnd>N8&=;ekuLg?`j192NKJ]qCwuZj*TjcEF*=G3Z|;:l|7-ollmmLQ&vRe:3-of:4b(O=VHh[
Li]y!mT%_^C:BcP,3fBD/JEf+ocz]R.hi*9U_VGa:lDdotw[:e=(E=hjk6<$`e&jps*eiq18iy3vj2)^Gm/e#Je!Ei)Es>yZGL_z
5'MtQ9M$J1U.Ej^O$^3g-3dc$3~`U[tt@2.0qLR3`!ET4<E$D9c,AbS-+P+Yp!|@z'i1lyRyV2~l8:pSP>#/SiLncMSb:fq.Sjk
2wWWy&!2ol3N]v3$~m%[DD##A]qjF/P/NE='9fl9-2=*>F?VFu+#,HqZ4kP~?Bj$,,?./Fu38YjTP3X#tWP-xnS0H#)r3.cl-V]
E+3%1meG.>KV~.um6uqrEi/_6;Frqe,i%|M]>=XdH*7coYv[1QVqAKW2#A1I,Y'~xe%(bTVuE&U[F,BUd9egh(0qSPsJoVlo4|@
La-HqP|v<d>%(n-$'BEvF@(4x(@,lk7y##ONg,b4@.K%-U;zRUyz)e=65t5CnXy[C,w'<~=YIgk<d5V52<<n@Wh'1CLkR?;~P/we
0!k,S=l*[Pw#/yLdhz2ad~Hvym8OicCqzPz,%]9kl_h5WkZ65*C8C%FY>LOIz&<*f'%W5s%=1$u$Z/;z+C?1p~yAiXR:@2CEaeVh
T0`cPJ4_Aj3#(ONrg[8'EVFb;1(/F916-[AVJ;ZLH2QB#Diw@opX;_os`vrjYZDV)/LHV3*X=L&En]VE2ey5ye*.h3~tQD6$!vOo
Y``x5^^+v/H/M/K!g)_aa5`^M@.uIk)D;re|VK9V_k-DQ4co`smtr%h_&C5Qsfz@326$G@!!Pr@#D`yo`,d(_=mH*2f=bklCYXSb
8<kE^BR.P,9wXq-hLYnNZbeIy:uv6f98P-VrYVEygK'-B;jb1>[1&%/HaT%G/C*7%EQ7*:-Y1kB_skjbih,?vA<avV.Aw|)K%r
0[#bjGa1t1~8la@t+g>Okz%7SI[Pc;(R6`,08Xk$g9!xilg/'w[B^OHT=?F>Ho3-OR8-]dIiEzRgW1t?qx@gb6,FQ?wkft8)Bq
4_`%#O_XMef/v[OLW)KX!|<3F]@/tGinP4W=~;f`,,(p0,wz:&qBC%MO&]_~OUd7e5nBCBJ[s|fi:g]lpM[//Q:1>l2?+7iG
7l/p!fQl~l0C-%b;8,h:e1sbB+ct>.$.BId~dOXz2FcboK[:^MQ_oPzCEy|_5TPme9x!V=_lnn]veY+Yg.@5o)'_<!b/n97|)CXY
71ox8H(E7Z*$pXOk9O2C.-7#,G[hwd]2-0KX<u]6C*80SW[wjc?td_[Q7`ODq$gA5a;Xw=*Y.0jp-QZtWw3T=uSc`>D4sK[~ow|
NpAXaVY-W2.B&]Fh*OXgW%qz/U)/19L~o@0q)J/3BXj!FOfM5rz5nW#?O>~6Iut~ksa*UU8D=<&+L~_4e!i,z~5td-e].|;F8y
Q,wVa[Yns%ruSSn9J?[/9;s]n8@s<7)ni~8;D*jUoB%:/g(vi5~^82)9#uU`(2:&b,z7tM*H4*zn]c>[a&tfd%?;XMrBb@K8.^<x
LB5V-ZnMA<nXJg!^<AX^fc:BlrNDm%y=VV+%m_Q'~awS+;KQP(R?4;7N];Ur#hI(m^j8/7g0ltkrP([C.g*ITe5Lr,5XI4yPus6L
ZR?'z+u[mpG|yU07&h$Yk.FlJa,VnPso&<w$5'FmtAl2X<D!/-~D=mI:X=$Ddo[pI[hzj2@01qG-(kx4d$Uk0=Y+xSfA@RsQK[#)
SRm@mdmf9piYRrg4)q[4T2b@0&$s2eePx4/Lc;L'OKqxP.nEu;,Hw!(hti8IMqoTiPHoV7(:7[DCzGV]zubp(eIoQOm6nCRcL
K-k*_sz]yyAZYJ)R+B`:&;IJjeW[SK/DXhD_mvl3*8_#KmL,.jeLBPLhv1Mjl>]E&((z/<cV-6W>cGL_3fntv,YKc:wBmFu<eC%B
3y79TgBH(P7+Cv_(pgbO?3O^&:c|v*k?!mdn;KBlE)H;wFpbGsiI)e%/BYL!+1k8Q=n!Mrwx!8Sq9li^Dp^h9+]uOs#sGer;Huqe
7%U5c6q@AtlM1*ZqLWt/ki|<,|XmMjSt8NVf:8tMop6FCo_V=bBvIm+-72s'y`_um]h]LYMH<w2F_2/x,RTrjSoNeRVaizO-)Cz^
06%L.mOR@t0S33Kof:Fgc;$5WbAG'!N&fB:7~$T[HMTD9I+RLHTVKAxZT-7]FR:^[Pv|c'mH(,:K0i@C|tzx`&ne?vyS<z8kP?BP
1oRh1+_=LvOm]d|.'.*z4mH5S_0i/q8ol5`NWCux.Z$0wE*/bbvT*/#ul)hBA0E;&j68u<,U02(i*L.XPAcoWLeLf58wV<]O6Q
5$e.-DxcizZH9lp4k%%/28S_^xVtLv3WqXr+S3`(kQ~<Ebis$ge7bVi7n$csqa&(zN]I!O'Upf,KEH`CIrU+49/JAs>J)i@AHI
Y:@DPr9)mxIhibg*@$nSToEmi8h1)7C[_nGU](To'e6?=%?t:Uc`vn^K>?nTUvjQI+-.#^(rPcpQbW7B_>_9Ck7apzbVs5rgiY|
7'0hWo?g|qB>28L/3:?>j[@J6&]O&/AaHDR[N0r_LHWcHJ71^*'l9X$Z[RJoVt0^#2HfX0Ct|aPkLSO'uB9TO(g?Z)n5u^dR9c;S
GYPKaHYOoD)[yf]ONSO;n3jWB-U'BQYmx;M?GYCN*2wvbuQMXm2N1+&4]b2~qT3Yo>#g_2pvEL+I-'/4NKy_$H?&_VBg*%,
F<d]!w*fF+M7wkSwuPyy6#2dZUkGwbbkZYamk86;,eIl2ZekU&_ve(b*$,E>.M|8S1=</f;ie+8VD*)Ee_EDA%O?qY~9Jbs,rEiH
Kqs6]!2Sa11l)a!Qx0Sb[-@|'7fcfuCRL;U!UMdV>zZza*'xi#$v7CC'EJKs5m1@y4'.'!hgV9j)P-`KCtVZu+R!l0FNuQg<`UKV
Aq9WK~eRNY&p.Z/ek!;qtKdW2dnNV.|rRx>Y4p!1QH,5lwyg%sfP]aiFCt6NM`q^9R+YXEnSy:[9xB#s2+0`DG5>4LN,74sI
E-t@f8<RlOLP'Wd$Uzm59W=5e=T[-Q.&%#l1`!|$1s.+CGEJg<$`+22Vi4$'?Ggp?-Dt:i?tWn,w9q*!?vdm/OlGMPvlgyX1+8DV
If/JQFC0fz![!zIS_%'i8qVF!X=!Ryv1<+b'Y`t,Fw]?J`W#C^q1|-mD<BFl,IjB1W/er6!:bdWNbC@,w.7fQTOg~x.%F@;
Q?h,qp[wdW*PrqyQ1GY6!hKBgS(5*89](Oz^e92VNfZW)hR`,nI^d7!;JaSA1U5xN2iFgvd_j8ZN]P]@ZRz|2m:AfzIs)S1`Ccr
1@|4|rSU>mk.yJo[*9:?Af)QsY74.Zc)obNj`SXS8$HO%DIRp!Z+WgUO2@[pIm<BXGwH(R^(<bJy^B-$G?[<dD3_Bs8L>.Cq67Lh
R|>hg^mN;r)lK6>|`O[AW3m|K:w4P_z=&=)_F]FddM99gZ`&2.U<&m,W@mXRQp(0u9|J1'bP%ON+k9OomjcmmEg^g|T5l
5d!g^c=w!&~p1;R5F52Nxs'D<vo+OlRs+~Bitdc2Q(~~n5xK;/c4P@]ABG#k;eAuH3N?,eH!hp-S#ImEz;!y'OmBU!4i0_o?d6p
R&m.jlD'PLLV]:Z'>>6bGWB?(0m<Ud,T%qQxaWJuR`B~Kq=0nn80S8_[m3O>9gc:-dnkd&o<L$Vx>~fP[Q:.mo0y&9f6JrljL'nQ
26rsPw,yEsk$dv_1XWzn24r|<q)gqoojmV*X.5ODivIkz.mZaKf/Z(KVMO$bEVcrkds7`=Hh|?fCO~IH|]45u6oQ!BW>~MzWAk3
L%C[n*0dUN4F-fZ>*BTE'Gr<X07O~GdsPxoLo>>Zc>cn8[&^vy|%XFuzD:'c1%YI!t0DAYEZ|aK5%<[%m8D]/4i,6?%#U0
D)z:$ug_kdWQX5Qp0NwGs?@?hT<iJ4&-E<4D,]PA$@4Ge)W$ipJ~lSpM:z4.DW?;w5[MII04h*:;CAjn1vV'Gn0p`3./,5E[[(iZ
PJX;ptIFCuW[sjx!-`_.USyL7d,BDKW>`vpk:''k8VC#/jQ%_@l/aodMC2Fl7#J.8EM~bv6JI1?(JT#+ngUMr-g^[TrB:S]UYno
9%gFi[^YHmVfk*P:CV6IE,GlRdv$*AG(.]qX#2/)n!$fira5s>WZ1.UCE6K!_*e,mp2^Oz?F(e|X5P*]@|`pGg(p$/^dWOJIXb^
F~/,PQw@hP1gUzLU@M=v-+dq(]/RbD]]5Y9#mwCR-H8M$enT5UAiIA;:zkA3&:#rtEcy|[%kT9z5&Qp4o4nC.1KuV&2IoX3I[
S_&)cM2sJA-c6+B^JKEa,[~=r'1flUzhYXbmJE)Hg``2W&Hxm;[MJXs.$'NU6aVH+[C7~mM:9vU5WyupH)Jl8dF3sPKN/Qvu
7)/hmps.$y~3o(PmI6o!OwW)S!jQHj[6+sMk?`F<:$,Xs<$koGCTxki86]fp7%;%M';*<,ibesf%FC?]/r)]'sk5Xv~O.17N9?;*
M1/u<i|Wn%5>a8u=jjT25#x-'ai|e&+b[>u/>;|X84tcv1Lvcv#Jm6YBV.K999KTO3jKevK_QeFzyuM4Dixjt#wXON*S+L`&6pE
Qba+HALnkMPD(1qSPe:2i'oH#rR1R;rIL+AU=Ef7hGCOOiTRgBZ``5_[wMd0Gk_V?M,3$Mi2m5'^$4cU*Ppz|utq-zO/ugLZ
K+p%k-Boi3o7YheNj#1V0J/Gg:a0/X5UH58Fbt4*&+AIg^Lcmt:A[W>bJ/8psJ]CJNKCbEti#hZkFma]+ybqR2Kfp7xw
I-rdqi.?/$)T%?hx53afF>C|2h,n[sfrR`Oe~O't/Jp*Df*18(~@fd*#N?G_s[M*TO9;@#`GgmdF70JM:vD)tFbpfGGZtJ'sX;8g
3m=QC%/8:HsBC<5Y#9<mo:oH6'F3QWs#$9=IgUBWN<@|O621e;#aS5`dhn95ioaGs]KL6`,s`p2&wwa6U#[Cl!a)A9T2y#g>=
F**jIMiYJYjdG74tasQ0xi6p5Lul]g1~N?'3[HH7r!viMY);~<y!b&d|#U]&&GlS,#JJ$Xz$>Q@bmGtGJH5Ds@bIsyM(_D-]yy=+
K9gu94=!<qako3_(6|UNFi-9`u$-)S9.[5sPiS9V)X]U>M<!IyaidGk<'MA*.bf#n]4llh=TRdT=aGjOolW?.l-_tK^wwaGW7
O-)q@+E1s~oYVE&0eyghf`)Qw%GNhu|beSsm7t:dia:?N8z#.-Ml7*e`Qxf;DSf3'C&4tkx8vmx!uAyC81!]l90c]8NssmFl;=u
2s!hUNHa`eMdt[T?aN0WPWCqB.N4R#PB^[@<[&f'M>]1ibRa;QA_9.u3*Euha4=f(_`HW*/TAZoXKv(m64P7I6wtB]N-AUgy@p=
Vym'P&:=*i&%eR2l*wUyyO]mYNVV$(-hLzzdE4:kdy`])pL&+DT^>RQoG^T5/ej~|pI[js4oJ4Z6rQ9B+AWY(mf]Se*$a_fVg6?Y
DeMwMP0z94UtfY6bl$EzUtQG<B9&>mU<W2)*&|8wL.yRI-=N@y'Ix_$w~x|jR8d'_HFit^GyW-~pjNuWx2u,71Uh2G'$yDYu.:8W
63:CdM/2a[aFmy_ow;F4,Oi8UQV1.u&cV*bPxufW?./5OAqHB]CTM6;]:oWM1o7@V[b:em|!B51!/5RjPD?->(-2luqOCz`mwy7^
MQI*ZzQt%)'n8DmSHuPF,dqjry)B5XZl-dnb)cke:!sb@2'6TEJ2yt_pjYDnmW1J0ls*cW0Z5Pq3eUe?Fx:j8:b&d-^74O@`k1,%
T:cvvvx!(q=D#Wf#T.&8Vg'IE|Q'>]`[h!rA0SwaF5mCVgree3u|<'?Lp_c-PLH?se@r#X)20WzB4.DF(mXbVi!wnXg0&S9?&Wj
C//6q0`^49#4wV#h2`BQi6yHkE5cg~]pMOZ>D(gJG#4Wj#sv$h[tcz=Yq4)!bDX<<KCN:AqyvY[1DOIr(it)unC*8LaZ0!;'w&
A*izoZ<q#`TuJrA:wR71j7G5@SKOe1Cm;#N_F`w|,A!tpj%`X&UD2LUL$);NZX4PD+@-n5ID~w8NqlP`83No_M=u?HAdC8H/Yc?
8z[2+YyV#UDogi6eO7Ss[X%x8s>ca*-xk&Z5&!syA19&55+CAWL3Y5WT`EHyn2o<XVEpBH/stnBo7eQwID8zJP&;Vi#-0%X0%5>
3a-`1?.[:RKIUG%IA(wLK]K)bd_D`15q@%wP9)CDuTHCejh^.H/1=6[YZeUOb_(D|WwDQ0kc.n7!.w_vGC3qGiZX@iSArxyT
Hs,<^vVqA5%^N1<2BEEmYQvcS#1]]$#2r1^FFE@4XB]([Th=qgyv=e[hW8Bf90aj/6s@o5/$Y#6Ct>u3]_d'e|3a3$ERr?EnnvYo
U2iE^;$wZm'`Ff&)3Znuj$@FU0VPJV#YY<i=6A[~x%V|,,&e>&fx?m/gu=|R,Hm/sy3#e*5#Fo%u~Y*]R88a^o1z/+Ws'!^kS+R|
8r+Bsf=<TfItWkC`T5)X,YFJ<t~ZcoMa2c9z1cbk`~!dJ1A)A7)iyeoc~|>uClbW7l=]Ww-i7)/N&;(B`!K(5Pfd&[kLiC54#3Zq
QPU^tk?/[R4-5rWY**]_;.N4oHPO6M)U+<)8ixrKfT@Q`i:T0RKeI!#%-fU;LfYLm'm/J&SH.?'sTyQ$N^Um)<DETa!4DL8pYk!_
L*BoC<*<iS*jgq)68b*JmoP'hVfW'T%UKj'di2G=SAYrAO>'WgMYen(d4]Zasa&V%=2Y3nZ])ek:a%C6dqxLuzu^TDmyX#6^xJo+
9%1dr;9tzhx;BK7cF`j1O$z6=1m_Gk,_7^70m2mx'XiwaoAkp%[$Y;H1~p?P=r?o,4Xi-Pf(RY#f^in@W&3Z3v1W3pRo%<T6S&f
3lN&O'jYNwTUM-]l%o65^MxNe:ni`v(q'=%RN.<=..Ak'YP)V9`FlEZehXA%)sOl4U;9`]!|sA?P_`XC.3[+[M4#?)DRnl/X-
4bgg+QI#i7k1_.bvCOKR@ornHs:%RDt._<3hHkKD.m[;nK1]ISW3~);a.x4l:.UC.2`G:X-Z%Xh&~;7UpxBm^X^@,C=e|J^[j#1
Uhuk_xZ/,nTZgN1K2%8/GRYK]Vj?ooC:GrY/iIaG!gFmF#ha(?/*cpf7wW1V/]V|+drWghKP76k^F$y!D?x,Nh&PGb6y%0vZ])
G#bCT>p8nE~Jk#RbAE198e6c)zJKOLA>jSXaOt331p%+?%/R0t9tX*:)6@C9+l'4q2!!kZ1ck[?Z=618Cdx94=xN06Dgj$v%@;1
7['&ZqEVcwO]GF4#;VTBnkr>Yy~$h@:@&'Dy[#~SP^^[w>8$:H9H2H-)N^@0Xgf!CyU7@DFA>5DOxM#@8V0(8uc:3)1>^vfZY3
Vfa2w;QH3m)ojxJg1'Ie0>v'Tc$K%VqrFC6i8MT<[;W2?b-i6OgjMcu0LIt^^rYiEwe_zUx>-0o2Z>'uzAG|~[X%TQ&1G:_XB,
Yr#fK[twTgAvP*L.n/Oh0gctaFH7bfKl(QGc|29hWUeZeau2S5)r$U$DJ*#[,cI~Hu.@1TOy&P'Ou=p;L6!,p9eqnk;r]b!3o8Q
5jXJD;lxm4h(:v=u?a+_<b>SU/TkgzXzy<24S@_2gbqHkD''Wb<d@p:DW95#VL(/8W-w=8J;_tk`wGcMCcn~Eg8-6Levo1q
T-~$-&4.YFjh+@tf]33A$#iY~zNI|]!rSO6+![(vV^OV'hak~6o5lfoVGux7^fFDDzr?0TyqO>[MZs;Jq%=Vy&vMO*aLCCfy0,GI
Bzqh[l9YX*<hAP</RVX4H1YByGF`lRFm?Tu25gtgW-1;iC5vM*V`U`41:1)c8w<'3.n`H^%I(HW<'*@FF8|D^L.c]]8C45F:z>I
9)?PjyUP5|ro8-T|0Vhz9$rw:knL:<vTW#rl5NQ%z.nGs3jj1sD^-7Tb#6aFaz;Up$_eX9cuc_[B$&tb:2GMCF6RN%N^eG~]Z3^
E=@O$3f]-9WC14[Sclrx[i&o|.?4y7Gf^`DG>k[.5Q]G':zT!gvFM5&):kR'HuZp)t6FF~p6zQ^R$RN>BZ$lWkovpsa|su#
6%|m+b>1K9Q!75*GI4V3d*kh,r.FDN_<m,DW%Bg4y8)ywR!5ZI|Z=KS1I-0OPDtzDy;@[DkK&`w+5ip;@q;>Ch(vj5(klX|Go2
Tfl?wgEOW~yw)9`9;dVqG%z6Rm@ixKV!|?iXZVsK,Mf)Pq/Em&~x!2LxYa-h,5(wCF,@4]&*PJFlLHY+qn7d*VukOH<%./+y|pe
0r)eGt_'Ht-PgAgw-cz.O&Z8+c@@OZKCJiyo@t~pD2^Ck;E5OrID)!L>`*bRGHxlPxp_HM+!I]HYg*F4[G3taZ@d]C%]pLcl_Mi
7cZ)y?;TY#0.Vg2zE&Tn&e-Xe:l;~!Dpp]B6Du3x,7re+I+iehsG5|fN>TJ(p2gU;RM3v*wUlig4CU?xJ5tr6OSZe1J~%R!:js_
Ff>.lZ,N#~D8odxpXg156%S-[qg)U=r2?c4![Fn<eyRM'&bE.Md/fy)J%|ZNmt~!T>H^9M`fOWel7zR8itRg.XB-e3>e+UEc@
D*r$o`6x)u[tNB82,E[:M+WXgDfWx-k'l8,6+a=_!.eFrJeR=D10Vb[vDY&Vp;]@bI:s88[D-Dn[xuiA;]Yc.]F`/YnJ!IJdGk
D%&O`4>`:2JctT2N7?aaZT'sK6tYRGe`3gSu/XA,nLv(7k#Q>S5]dIJ-%QJR[Pl<Vvsr;TdeDarPte7T]@P@mr,31GCG(%RI.mX*
2W)w4eYg.h')Z~t;)%D|COy,$wSH#y4L+#tF:Q]MK*rXf,Zn,BZ;VD,t.zpIBM[d.>,`*)#isxWLf_iYX^S,*-IT^CLEE_.<
F]*?n=/ad+_c)7h]qJLX'_Tv#]rvV[wx:hPL=y4ca?.K:/`&TV!ok[Zfw1NU$J'[EmSQJQ@Dna$3A:32J:Tw5M`%T!*Sd~A^3o
Q@!Vl)N,-$#[e8n[v8l.=zJyZDL$+?0M]/T+4HDje;7:hHqttj4A.sISpI5`+32W`/f$qI;v__,$q,[FL]DxBfXv~UeWcv+>tU*
H|~YV>HzqU+#6f+1^wxfhV&eAJ|p0SStg*@gaF&b(3(VM|jlNUG9pSJZec'FzAU.h!%#=hO+OB<##hC<]J7.hl4Lqk|!:|#P8gWV
Q|tfHaBsObfmftwCaU$CJSet0#y=)/*!SC|9-!E>SuX<;%Iu7?dr<q7rnN3/a|BMwnsK.shC~C,K-SCnCn#u?H3Ty[_qDw]_+~rz
V]Cip<KC_dC]~X?Bp8n!lUjV#?eT4[nW]`1KU=u|]Z#Z2kOx9g@a)KQHTaIoV-Ji`hPcUvhZp,qGvO$O1%8(xAW6l_-g.?Nk8,
KdhE5adOE_FNOy4Q9V_3s7pLsH>IczHZU|3uw4kSo`5;~k7uo(TV/Z`0xe7ChFt.362^$dYB>`)Lbf~zzG(>,=z2p[.G+gY$KM.h
S!7]cV>;<@CafN=6Q53|c9x4g>E,RzKI#kRPA@0%Ejb3)Na6K$5RrHDpaB!rA>eplb<c*ZQUYH5VCO>D.Vpx9Tf|6g`Wpd~]]dAZ
CpFE:`9^S=SC15xsadxEJCk+eS[ZJh<(gc[-BM#e`+r`IcuP`8s1^T[mK2~rvkO*)rBvRl8/--e`WOKcl8%N]bJKP>%]g%:9e>(F
N!|7wzU[*eRf77iq_5&!(J_gxwale49;IIY`ASMi+xPNmhT]Y@T.H^d;&U#huXDUnKmdr-*5T8`CC*xAX]%#KTb);5,w;hDazk)
6#n6H3'zw*I#X0!Q+T/yW6YZ#`?W*f8Jn<+0BBpz~2uQY/BR8'E]9txLLl7X9i=Mx*HaAHJ2E'(+J$|)VZiYWxem8/jmCux$c0M
5bX.Ni4F?Ofg/l26Y-7cb`.5:m7:g8Z'V,x8m/.s'&GaJuw4tZB,[;,jQD]XSXdqBylx1aJ%[x^2w[FYabJEA@H-&|B/3K9*kv*
Q:n5ZUwS(%KlH0)F7-`nmtG?/pKwW:lQ/;3F$j[/Qo;SIaFm8-_r_y!$0qvD/lqo6V@,$Ox@fBj)bEzwoZ~R*$>C2NV]OAR0
0~wz)]>A2x~1>o$.!hx,7=`.|*lRy6LX>+r4Dba^xRu<gy3Fg+58A[<Q?-).f]zgJ|k.2-bU>xQU@PO~.-&^sFq$ssJzH14$b7
Vnw_Odkj^J~@tCp,=qIucG[8csj7(Qxv5?w6/B>55z&`JiPvVx~rz2R|S=ns;LYFuyaLd(L4~j[I/+R^w9Pykk9KZf4BHqyrL
4vz_-mBLPft=]86~RIF2;u+J:=A@5Hc^%&3Dof4afXO[)=WVavo=OesYw*uYf7bH+l)):S>&L@KD~4+58Miz,>oaev>=603R6k[!
AoZ7T]4Vs7|WsLVrS_(IT`vLda7mEF%pu0JsvY$+0_xc!Q#sl47*Nd(Q9v+1,|]ryR=&J>#+ye?q]'=-jr_=;Pz|=pfZ[>-$iz
QohMIO/IwthVT>R;t<[LulFyL]xUy8ND+G,?V.??E:36HlkKkn1.v9[T/CTo%R`>5MjB&t1P)ig3#nqKQkRB=G|,HEWVAt;X4;
Xs/3::3eU6VF4KKYuZef5wRac[xF*i|Rj?%IMnQpfQBHaSIP+4J5Q$4Qi&F)BCPBjm@bKBY`[tNCp/7.AmkLZY3`oM#6Rxk@=
X-!lC6;ck&!HI@>Z=e?~C^ov'9[OS;_;qLBj=+a6CpLG;F9s]`7LMa|%ZPj~!**/$j=XNYZ?T)QJZfCtI^39Ra)s;|JzIkcn_z5
Ks|EMRU7,P1if(EV$SDh_Ffk~_[51re+E)x`YBS!C>C~V:11,#,2dn(?)WaZ*yn+Cv8UOzW'c2@XR2fb'^*C%>HWl_<c%>@OhR!
Uh%x+=TN+tNV/%Pp'[%o]Q'Xa3-EczZnil-f5Q,V-t~(i@&C+d(~]'VoAvY]$]=`:qj9Z,4kl!9(Hc~%cAZ$sXYi@#@&s~#gh+B
TcEIy?tPmZn<_oZXfD@9ewBlW5aPO(xOpZwp::4>%RLZ#`O2dKjoL@)MVf|D6@rThHvZo1QxlB6tI%|1]IS|8R5Hlz'*X+K=3Ymj
Qx2Yy>/%%cW,Z644Ngh1b;kQp(FHLFUv9p/f0=HcQ<Nsa@D_1M$?2=$iYy'nt8iqbS&8Kc~5:=5X~L0h12Kz//Sa=l/D0rg49Ol1
C0,)vl9>7i@fPq)pY,|s5%z(t|m`:a_<98<tT[&5t]djNi8=cakBY(%Sbrr;aflt)fZaUHEN>7IdRIZHAl878ZS*k06SQOi,O&%
W=uL_*_-gqC$4tsiv/!z!!l+e8ns&*^'(1YhOX(JqS4Ie~troUe`0M)/*p6UxtGuVW'YO~]|l++O#1yf06;/IeJ$W*c5D($I%N@
Kb6xp(a<Stg'6]2%|s'JcoIjA5Qq+Y#'s6SzFI7mW`3'8xb/ex#f).-oZ<_|2>TtUnC]JzVHJZlHu:GULLLwit.fT=Ydb8_)Ae
D@[N;NeyQv+cUJGQ*vU0`+MtRC@qK<_TyQV'kORHazbB)c%_LNAZuybRMz?fEM`/4m(J/rv76E'[q?aZ':GD~|miBLRh<:j8>
N#*`DI]WQ!JIhKU>P?doy4z#wS+Doq/.BW4Cr)7!CDGD-K3l-0M7_0e4IC5tfDE>TY#T-nAIK%'O03aV*[V:7*MX_3fbNa>U;
Fj%+k$[7m%1~6V5]v5D#~|$W&l(dyUvS8IG)!-7JBLV&%76?U-p2k7]r:>]'27li9)d]PSi&vHi8)i:Mh_$i=7*m>%U*af'%~-Y
NliANf3k?g!;%aG;C37ELcY~afD$3amaTZ6*JW-+D32i#a%ZBhy8E61-L]TNBX^37nG%y=llPA(8ZX.1H#_ZI+;RzLbMGXN[
8zhlt_h`n9k</Hw;,iFF5Rkr5W@D_<|N3]?#)?ag>+D`X;$!sW2XYy=DmR-ZV?s/PgZ%t>[Z+p%(%u5lf;qNtlSzV@K^@
E)eq):(:+J[7orh8<rI@8!ZL~(r,k==D&(84uBrBr0x]Df#BZ;xKF|Mh%c9y7Wcl~NlH9^#?h&@ER)>(5.Y*m[7./~57osr4kBEp
QIT@gad!pl2XLu[+b(bhU(HM]?SbB]sgd:PChhSMF/407xy6a;7SyuwFNF@++Hh00@)*UAq'3#`Mh?K1k~.N.ywit=(3$QTlci
E:)xr<N^)kt)L:^~-%hT[Fi(s_S)33Z+7JUS~i8_BvYn)i*S;]abTI^Du^(%avepdBN@b14AT.b#O'x6PA]S/:MDhg,fj2CKsVp=
6X<f#/2@cSZ9`ceqirDq+uBwH$zn->VkXGJJEm0[+Il<=xcx<CL,9Ay;MM7XohhSn|k8KB'v0VJ:UsTZD:@`s(;z>aB0l#S,hoU
Iuv1j-:Sj0DpJ_LXy~F~u=qCtKEy$$qVgA$Udki<MEat4odYXka|veUN'[L*]q~wp<VYX0z+u&+@1k?s%~hGH/(Dgh`p?$4+w
JqewA2T:/*8w8:bQ>LfOS)^EviB'.a1GNd(0l>*o8.O|O7>#*0xg`,(d<eUs<M`T#5IJV1+q@UQhNKXGk#r;24'TBt.Fl8OW-aq1
0e#x0xY6L60wJ]!:CM<NMd=WTjY-t|G~V'8AcaSUQd.<,&pQ5<0xiFH3gH5,sLufVt&?0wiav2(i`z~w`-!SC?T5~p'ia1n(DhSm
6WS8$A#yG$[MdnUE_AYgdwrxqGw*a~%TP`p>*jqf<?4$$=,&Q2,FZrGPbG1&m|e^G&R4#C5vO|<?FwqFXB.YDnJv6f>*c%qwA_q
R~ABv(VH3^.h[S<<kZ_R/4OSkoNLtH(yg'VPluGi?I_=M~OMEb.9hG|`-UO,!L1+L3bZQ!mQgV'8em.8pA99o^J6qi9zNXvow
Wh*fxW|XjL8Jco&1@I.zRC~FYjE?m[?m2l<X28ZTEvoCkxun=J~o^/|Ya2Uq'esB4s,]/R%m_peTTK$zou!Pu^uDwhGpf|;
A/d!g_Njc&e2QTH'-#j[Zgt6:2BxLBidf>U1_J$0ryF;UMP|!QH*Jtj[hK'8o55Fv*pgTm!K~fLVle*9F?(&Jcla|$SjV.=7?eLC
V~uyhP!jhP.5GP?6aH5KG$P$a8vBJ+#VkV>eBU!n.s^mLfo!h@WvBg/RY9S2F7]~E13:n|P-r;z%()IS66,g0S_~o.yZg)quyVl
T(P?uL^$OmEke>Td?:,EJAk>e5Wd`b.Y[wm&8s%>(:3oYJqBI5e06+jFSrrHOQohm.dav*7pa!>(~)p.?xluL&^kO9ecEf?!uQ,
6eReIn9X9o%AGlnu]:>dJ>f4HfbZ(nB5dTCj/eYB$!_xuh^f8Iih-:)h.j5rI8aN2Tx52!!IiyH2*2*Rqvjo_x;yN]uR307%iXL
T/VDbO#PpJjIIJJ%aNeX/>#tXM?r82tO6B92v7naS:h594POJse,mm2X|/Gw3_m9<n!Q;rOIrSnfJ`0Jhw[XgWDS/PDNtGoV`~A
0;7l!g(|z9NS5BXOfmXK&%>bJwr<@zV.cwPwF'I7D9MR7#2^-Cg5:M<.ut*%iFZvNF1bCZT@]^v&y%lrNTU/X31Vglc2iT)&/<(
4,5]?qk.);']>iQr^2o#+<#Fm3,is-M[X15@@?C4Y+ymDAfUO9~'<4&f[Jzap^L[!Adv_+7:(;TzH_<mwhof8Qlr:1Me&%pPx
A+|?.#;r*:X0J~;]3tD4;]]&NC1Y(uyw^j>vi@;8`Xq=w^E.vO$g`|o@rD*&w5H4=/6[d=wwI#htyA^?)xe!c;#Bv6m:.8LQ_Iel
E/:6dS/nr.vA8sc^z-h$oNXm.G8Zj8=0u9Sd6`zY:?HPN2'Kp;)gLb[YgRlEOV2FM//nVP'_<f'`0xeq>O90)C,[Gd~1g~Is&b&,
6FAOies9>(@yZ-~BkUvHpx`t8|VtJk6]X^^`mia5&!zi#G%]mT:mqD_jg1l![ZJt5+?x</zgi<_o:VT%&:7T;%E?r')j4>0:|
4dpoN'mDIv:*1oPdmRtf@vi/l3#_GStSvp(ZmS=WQ44CoKZ,m7,GEkIr@,_Fo8fWnbm88Smz>e*jv[th*7M-#^:/;hp$B'X9U8)#
C8cmA8E|6[9_<(zQw+:'PAw#Mb=gUoA>&O50]AMeiv-ij9HFGt2@wR_oLux!GvesJBi+3JVJeoWu-^t)e!ki$kU.D--n2n,FQ.
Wot$:Ygd@(]&<%h.1QCTX4ysB?z'%c]gDylrma|!U!.OyQGE**5CgK2+UUC|?w.2j!T($hC+rsBOJJiE3m>WoCqLDPZRcoAZ8RB
AoJI!MS4qK$xk;FqFss8^;5<:u^eE&]Q)nTcty~/o>&B;)#[:dhrz1Lq05q./K_&C7T2B`azBX+PCqPjFqps8O>:;9^*vMp)aAKG
0XD7',sChQ<@t1K=#MhaF;0mBNGV!MuloYGdcx@)x0zKH,wCbx!#zv_`^#F0TL#-$|=2^ExD1b>&u1,'mbo]7<iz<t@kH(o
I+/sssnA^'uOsl9nEqZhr@DUi5q~O&=2zm%<8X])+,HgqZ1iUfl,9`1ZmTsL,Xp7u.mPgRuLR1=4^W5s=)Fl1qkJspC.i/[[M,n
Cg5ufdVMM~rYu4`RyU):SwynG-mp|_%BLcyTse|*;mS$-nCP*osMiVeJH(*+xzwf!cpRUSpThwaHyf$|f04>jlT7pw6u
B|e%@__%hG0)DVxqr-6gIF;ic0^>e'RwPr'10l~#['^50|<)I0=@WVF~zK5y<E6'19E~d/z/-Q!.nfcE<.PY|i$X$pQE$<(dPVS
S*QB|@rc&65PM=dCR2aQ.Mka@=A]UwK=2?:794J0i~B5<?o=;uiy6BGgl:2m@9XBIB$_,bk/96HOCY.c6~mN'4$As*U]O>WlV06B
N7GgRU,|d1S6k9?wo8OW>GR<)0Dj#uf&6g(bzlKqcpeL&i;m~?A]IB]H9hIVuly_<1NVtF!z!&|*;GJqp>qp%nm]UpjIjN4%g#
Q(uFq&Zf<m(P+K?-.e^D*i?nn*b=~HpT_RO6EQ4Kz<#sMItd3D%JC5*WI#%&_fAOfOq0AVvwaF*-l0m=teufcoc###y5
O?p:i)g=%n)Je_6/Bd*b!v=OAAwOrFZ3GpV;aZ[zIQGcd73DE`klIdoa&I[o:fU?d(2u1e(4W/;63v2>DJw5q%8[wei@$(b
3$za@uXWBD&vBs/xcy!N.bQc~w`R,7AM?.[m`OB.b7P5&~8$xb(J:QPpIMD1PJ4gt`[/+anZ~c&7Dqpw+jW9jETFY#o;y
K^>'*m*pn$_&NM_,v,6~uXIA+v9MNIv.64'Y8bn)4Z&OO^J'7E?eWV*M[Yl6~s/<NDE_l3Q~aiFfsX<OxfVo#AD%
Mb?u:=u_q.y=p-.,Lf3'YBx6)gvMi~~xIEoEq?3Fc[C$fFN212jZ%Cgq,onPOBUm.aGD^[p|o)0>NgjuC/V$Mh0&sKrsjI
Kc$_e-*3t@VTWB4iBuWADIH/wyf76Py%InCy_EYQu'eS&|k%RDI/65*;lYS[69;!Ry;!j`ayeBZ10BtBqq,o~lTGSz-|w
0z~_wwr:PNJk't4rsHPv`m>s.A9cOZN]jK2b/1]AK_+86OuYclS&_u[R3(Nxjn@Y$`d~jhXdiA^:KW7rnzK8JtJr47-wGVSk+$Hv
EJVhNuKpnr8FM#c>LG_l>8=No>WHBO)8dw[7o'C]#Az(fSkVf*4:Ua.iNp'uSV[8B[jUROco4z5~~YGSy=6'&:o1Tp1I2OED1se8
J?R`zn8MDggJ6Ig+qgWp8SkhPr#O|RAk^;(@:0~R&v3?MLNm@>BAwdi2?YhQpiGFh4P?7SLmzNBC9Wmn+yo&jrPxX1rsFqQ=sXL8
Kw523#.G%CS2/;=/E,y[h'c%Y@w%SV-g|cGn%?g(h&90'lLXN4Pi!B%ju;n)L?R&e3jw6Xgvmi+B'loJ_#VZC&Y/Dk4A^7'_;G#'
Fu|IF!85L|QZjrf|8rT<<pL_%=j*Rl[e`)/D(Bu=CtkP(eZnmM|@9U-.dAnoaDk=7Wbz|9'h(pslbSaQt*IJp5I%<1uMds@-kRYY
UZ~!t6SpQ/<UQC)fGfsZoj(Vs%e:B_Qh5x[VBqW*|B-UjXblGqtQTZ`p)jAEOVz!5mkz12RClU|Vv0/F,b$Hpe`|X9!+tI
U$#qeu,B|*hYtU@y>iSis8yB5o[)s39gD_n:5G:XFPNk&f0c1MwWid#RPVpX'S=ZHPQ7U*NmkMoc~->#;[[KZ?T3WIVxv`G9m:
P$e)mJmbLt9.`T@;'1]Qk!jS<M^Sb2O`Yi+3h2%KPL6!'O,Sgx#cht?4%VQkBDX:'CPG;&B8zsq>-5AIf.|/*kj@Q+`(s.kGA+m>
BLzsyd/1'HrTgj_((f0K=T9b9-?RO|?s3*:6N8IYe9^NFm_8DFAC@qzByr'Ry4z`DHo=Vi!H;8y.e6=N(65~wU5o&T=x#NTQ5
K>!sNo_O0@'+iK+YCdKep28N6EWh~#XAf*FR@06ZLBWq`:(duou4lC?aC7P#l0/BIg9z[.F5D2Z%[[Ywm,C]b75kNLoh9K#T>1
Tq=b2;_GeI7])U<VI9VSa|>&/-:fv,+QqGi+I.GkRTvOhAK;v<TTBs^hz1IyT9az&|$P@i/9MvNBI-4]+^[v/.>/&ExRxU=a
Gunv_EZ2n/MpYu8L/vFKCamHoQB54*G-z*&?s%?VQ<DC.m9a~`K#cvF#b;s5w1?T_ruxt6`5.&XQI0*^BcLv&;j`-Um#^r's3
0[n,<|u=C!?g(FdbbFen;TkPXyN<|mT3;|l@,#d//Jw+bcOwD:,q1D$Gm5V8(KxHqFFFFq7=Ywl#.n.z@P2^K+LZb+7'mM
Rq]~lcjHGPY|mT|82w9B$kyt&ae56k7>sx^y.N6^u9n.-tW[Eh9Ri[Tv8Hoxrf/3M=yb#bs]<._c.MpI_g-~rH%HZV|Y-vAi;aS
WoegIdZA~;|!H,rcCNj.tozM1[/3T_2~d93R@d;Z,ms%MMldZiD%6HAl^72RzK;e%b553'Me;X&_%uiR~(?8Wf4mKcZ5eF[PoKW>
P>)/9(O3m-e;6Z)$mpWc4#+O76+=pno~SHHhz[=LsdVyIJ~q]!?_vndR$@J`1#(!3%b:.#_~J(8C<JJr8zq9'PFm%P_q?5n_4D8
4%QcJ>bFc()F=iw&B<Q36Gy[Pe'jsQP?`241!6V^~[,nwFDU!!AF'wSR8(A;PBhSn|Yy4Xg98l|mmX|>m]x%@CSpDJK>qP8wZt
L]#?N/t9q`Yw~HFKQo#)M7vi$-W8Bv1ZL'fPt%%i6-HkvA0lcn2+SaAG1l/LppQZ/ATDKPpq=vKyC(Su<c`ZrOBSTe+iSF<~Xa
Olk.Sj[o:)<qEvDEO6l6<RJV@77Y0W'|E|LU=kY;B24Qbb6N0/+Sp,~#VagZh'?4/;PSJ/tO4G?UPXkIekkWLLM?zT7gp:/0@I
As?Ub#q@E_x6Ol1Rknf@2:9lgv>pw>nz3s?5_jzj?#LgWwd5D4bhMhzM?lz|6wnf9Q8Trlo.X~V#fl-otx4rDJR/$:ZV]o`9D+s
Lxk./o^,uLoyATxgHkX/0pn+X!RfS5YUOcGFkB85tuFpiD+u2k&tzj'[ot&Oj<-2ku_g@2uqkKp+Qp?1Wzb9SVe.)eMy@U-
Dhm/&]N!9[%P5I/RB%%sI9-7_ZM:eK;$%`'UY`A6xAlCH@KQp1jus6qH$J#;c*Wq+pv^![!P<>X?x=RML4tY#]QC_WI)j@rqQUW
0<QfT;@M4+wKkhI)DkXKeCs?Aq.g`Ol@P)/oB9aJE.$>2TEx$-^Z-x)rn%?=A-Bq21q+dBfSar/S,am(Mi!L?<<v'zy'92CXGDyI
FYU6zA9B,5A4/=@H7;(qbf.##Rq-Nh/v:g;nbW0s!#!9gqg3VgZC->K:9_;'`qBd!(?Qu'j6m~xh<:;u)[fM]>g<tS'zl<Py+KM[
Qufk0_;Z<V$i8<:uMpJ](/fc%*MgnoH17TuMXU!XM/GoQ?m^61ff@(Y020E(uiKg54Jeq;I9stEa/YvT>|D:x')oR/4(w4]tEbnI
PRQ%5aoACDR3Y@TH`3fAYNeD~G9t8jTDHmxC#>~K:dbo[9q#&o'gc[MfS|U9_9f5_s&c`H!W:tU7,-d1MZl;2gw1=WGSNt2EbB/
Tk=1.7PFeh]bS4VfdK>`=>'Lca:Fr/9cx^fYd[NDwg(qOmO#D<Rw%3MsiZ6@7'A9-/~y]*?m/uUS0Cy&fWy+Q&tas~).!`8LvXzb
OLGu~Oq>4g]2*9^(r~.is<3dMsW+gHqL#v>M$;ch7XD^WlWFv'>S#]lUSPX<'1Zv%4Hb6K'?A^sSS|'^^M4=+*a1?Q-FqwZ4vut
EgUL_B.s@0,.hpWm>N>Cicv44+3`L-7X-j3BxY|]j5:;f`:@S7gM@e&V;v;`vliV<btQKWdW`~(V)W~2-^Qoq'6t2,WTe|D^9
2y@=9(lEbf(0/4BL.hPBu&m%mHP+Z^&JSVW|))9_ZzHo&DVS`9+TPZuEMYz./bs9^ENHI%M=ZS0PvPFr>=WhhA$rvyA5%;'
Ui$opqXddu);umZ<:m/GiQjOw3|A-*fa4P%zlV1J]|_@j~U>#`69VLL'1XXXT7#|U<#maz0j'>EDzF)y>Vld'b%j6zMV^OaY=
L<%wSCQ/H$Vduc`Qb&8fP]P$B&T~EBgZw+^Q<p!@jP9s2<>S^Wt]3XMAOp+j_gh5G%[TtK@nS#x-S.7pNb;[#xb*tI8.70]n5
X_u]AT^7NMK1|!w%JDtBU)PkrGqz-^.=vbQ,`JvF$JHL1&gf;blE/mKD`_TX5j(|`(gR`U2Z^TI?<YzHARlqDW1m#1SlMKumhf<
9>y-jOLjurk:#HO@5=.@/,3D9n=XU?cE!RGNzDqx;0TTB5S6AI_w.xhHi`aJ+3Pv.&|$+:M[s7@4W+dE:$?2|%&;Cn6W.b!WoR^H
5=L7zp%27*5sNiS|:foa0Oup*`wb_c4'[Dvc@Jx|N<@SUs[m!95Tlo@8g>Av_A9,_W<9;:ck3Hk]`l!Z[[r@pbD]h&!$Y2_0rc9N
PZ<?za6bN0q)'RS308b~QxTHDpV1C`/oW?.rBSAi6H=ioF:'T~-@@YqMC~S]YJW-(gHrrs68Hsl*kkRcY>3OEfndG'WEHdv(~fo
V%SJ=,E%(#*_Zc9~hun8ZJ4*AsKSjYm81)zGA~HCPIKL1fzW~z=%M8[>K/&u%]xeL[J9k^9Sls_Gv4?n*66I2p@4XenKCNf8Qa+d
4_%k>?X-'o<7)C^h%`Onr2'o~flo6sAORpbCD92'S-*M?8YvNq4RKMntsTl+yA7bEHa*^Ww!m13UgZ+mf0oJD+lz=/-5q=>KAV2^
2:O7@<6z#k9OeJB<ZxebO03~1||OqW)4Bg&n:cB3HU`h)>,?L.wD[,&fBY)g_'W;MyV5.BjQ^X<s3e!3ORh.9Ns|e/LU_bM&Q
5&%<iktHpDMd&;<+0I$oHS:M@Y|Z<CUEM6;~ASdvBpo*>POa+boxgqd]!ZKYmo=V^?%Kks#;G<kj#wug0m~A~<6WTgd%Y73ly
0-p@9%Vn5pwJbIAMfFpzGA=I_x/FD2NOvLWs34t=;Ct5@eK'(';~RQNdSYJ4AE;Zc|GPR/`b_n9uu/Z6JA5L$<c0.W-p8_t
Cq>sgt[zck_Ph[Cx3%.`~Q=4Mu^PE['Fw&w?I5ixvD_,ChtOfsb*$k5uZE6.4'-Myhhc@ekWZT_lf:Pv3o4jP=TO/8xRYH%Fk
0idmVi*&K1ZTiR*WW`xM'u8HFWK!1hd98Ig2dN(wT5P#r=i~5JV~@*dJTZV[N4vpurN7w|1AubBctNa-5GEoYDbjFO-)uW#kC%S
IyY4Tp'`j_0BHPk1#R6?26;n+1,b]NZ6F8U'xQ2-KQA7[:!E*Hbrhd5=1PEXMriuT0N[C-l9h]&d?nf+J`8ib.MvRyPP&5:ga
I^yv=IrJ_Hsuil7oo,t=sp/!)?H]zrUEC+.zqzYnlFSn*llB:lzLg:<H0`1H+h)'0fzOVY0'HPQ1Td55Uy[[;B?[2X<c.umAfXmg
4H4&'TK#aWB+/'P&AKXFzgFo,([8n><'`sUwv~v_]dAM?moV'~cL>Px_vp/%pF%.EZ6uZvlSt|vK0>2>mq8zrgXVrXo]Tddx$-
Ww__xIyf1%%lSO9t3*2<s|XKU~'r%bLzi@iR`[6/p9x|dG!-Vb65v<RUEgJ=P:?yXgq-W#=7BX;TM5co_bzi%)3%4/0eQLLPWUo/
5p?1!A8;(D-3_,PDd+R?SdDA<Um|tUmp;*gM=@hkNPH~o.g64]Ug5keig5A`v5X.,IJeZNKkNu_Ll;YRey)z]6_/6rAhmb;<1v@
4lOuA:ZNKJ-4^-E8p+'2hKTp@*]HW5)9_e>_`r&@7`<9iENTj*@c@';u+=%S$ByUi8%N6B+1a_m?>:4yg5mW)s43VrtBm>wsivzx
V1Y0u,46-06xf^X_Z;Ye?MEUW]$23#3$2+yd[PMDwMbPmMT-al^.AFmAgb%;KU~j0E2['s^yI?O<&<3z6dG(3,O/~I)GSxG1=[[Q
0C]P~IG^c)3'z^1<TT~,ngW(Tiqpw?>|X*ze#m|+3lmA!=DTZ'WDhusGMw-I.Y?+TGg?eD^FAdIdpbWfw;riZ~ebyjtQjaxYHp4
5&;&Tf~z;0#fyU'zVCxYHED]2kdY,0Yp>[VIY|'@e'0KLrxF`_VTxk&%N=#)*^5[TByc;?qC?Ut<1xMZ`hpmj^WT@+CHi5_4Z@qP
EL`*pjfqFrj|i|DZb?V-uu(M!,k.mL]hQCsK&sS5^wPqJT5Lu%E**snwCNt&|aXTkgPYBqN0'+_Q&4oN.<Yj3)m3siT9=joeH,u
L+[p;Mff@*(e=COo,8I$~OWB^5?@+p!3(Hd3GzkR[RQ8`[[qk9KBYbu~B2OVo.c-Llo3nm#1ce9gvtG]~-Y]|OsAAWSOn9]2wph
FvVg3B8m)?V@SSYs6A$(/nHSazJaaVnAl0]OqjgU~<Q04PG9`gavB*kC)dgc(XiwvP?P!ZZI^OO;MK*7:DB,KK>o^+yoO=<Xp
W+d)Sj/*;qZi?#H.,7GpKTY4l*`X0v.'=Q3AC]`U'PYaHvU.n>&h0:E|swj<SkTJ7~xrUAe?*mxCyXiA2^ePQ1+l_6)agCoNGXiV
Z6#[/MMDMnVQdDR,tUe;q:|-TtE?L>K:AVSJ@Qjh,`LD5AcwX+XAr_;*bGCHw$T1G(30AgHxL1xG1S/j?~n8_yCJL8XKSuJ74
F<dhV=|oCDPA>(14R(cS_9Ri)MOc0d=aZm,Ks=J.2y_wP>fdy'[k~CX0m;pvW:)`CHrVt+b+`hoyC$~OzQLjQcmi%-*xLOKRbM
Tth/YZ,K|G=CRS#^6#P)^O,Uk,nRhwz+2DZE6|sXM_+@FCt97g3$hO%bykmsn&nP915fz>6GJUd2AyJFkSZ;Z9W#@b/vc)qtftE
9rv;26'V]Cg,$[Qw1BHw]vVsZaT+d:lo61Wjlzx3$n584;XW]4)zu84Vu^]A7bs<YXtzUY:Z+0#4@)ZsvBzt]xw>P
F!@%pj>d,f~cUV[/TV5i@g*g+:j^;/Ng9gYr7`mtcaXtNclq1NcWY<Gf*Gr:iX:*qr^|vM,=Ts*ZAb+2CX^Mv.z1Kv.WXOVg/M
0|/2b7L?[hC,8T+jfJ7aj-g@&s)P%WAP&a5h~UXzLw/02l.0LUIM6-W=+7G.P$ITTFhH54sh&@AC3:l7?FF4J~h%+pi/8`M:_xw-
M?fTY'DMoB9-bJNEVZOce8LaI,A']A*1qvMOnQT5x`^uR?=/P|ePXY8@Vuq)|#t-rxdeXh]-$aFNqIZwfN$96h,Nhk&?P_3
U`p;#/Q@X`Ox0:jWrvS=4M<Ffqu,<6rIp/.U;SO3vE?3blEI'6GW0>l3Q.qi2B%g:H=idap,djgZL`tqKx|UX?;;tf=pEMdX`Wi
H%e(~#QP=aL|M;bZ#IPeKq+otta<)$k(V#)W>^b&U=Bf4`c/Yg9:[mM:OSoqSBt?A@QPM`4tZT!|]yQuG*U5D*;&qC@J1xz;q?
D(@?`d&K'7w~894QQkk?ww-@q2EKiT'M<8rvNd-gVvk]AC~N>r=#Zp%a0&+OP!|eSRtv2&!yzhlWc_hVr~|UN,N|/L-#0l`SBf$
PrrX(IO57-GaN75h_R)go;.GK~3#5=D'nwjak[^.[>HE/?V@(sZG7^;>aG+>[>T?NIZw#Woi-(|t>6Q@~|WEa/r8?hC97IgQGeT
Xz[L.z*^wOb+C6uU@4_<#fK5-xx^wh8v5<tf@F:oGAphnwLysW_:U3;p8^S2~>KVh6R/EDefOekUc#gz?q1P6X+||$|G#e6n*U
6ffN'/l)Iyw2wzgO/Aypw1V)jbvpSw1>Pt26^Xo?9HWGCnh[1S6QgQyBpe?yNJutz[T1Uo5.=lcGh3Q'xsG+x(@qQHQ*c^)3v$8h
0DD47rcjclz|/3hquGy'NBPUM/!:g'Ei7D>E,FDpkdddUPlY3T/)TR-NrCHd4#k)CopP!qc;.f$hP/D+98th+y[y;
Zp=[&:@,fvi<M>Gcc&0CQ_+@;vs@@+XWtv?Z7]AtVePr,I2S9oCfY.8B-X-AEPU8jvMUT],nc]w2E8YFxY`L9x:/7d=u%bo<q*86
TxaZ;Z?>_=R*qI_p?S?8tz9a=::qa*ugE77K<;rS84VE/m9A'$!-4y^=W;zo8&5jwb'1#X+^89>7|1FvK+N.X6fm7Zxz,Y8t,-*&
K7tNo+1%N(`A@R5_#O$>w.JAU#G(;r_o2;B?FQrO1vBed]/dD#b5?[XX?Vx#N`^$w$WupL-jrMCE-bJ[lHfnA2<bs(NR-)I6O?&
TgFaUp5~rxLv#,g6@iw+m,u?f7?f!BiKPM?aaU4k%IhAJ.1sU.1UodcjL,jNgd:Fu0A7bf4%iA:$PB8^t#KmkhJ$NTs>@x&VWJ>
J/Q>MOeGQ8!XlGhELhq>)|wY3j!'[yU?#v1CK_^]`'>Al_8JS<!:&x_!k((Ln_+E,AbOOyp|UUA>_ejT.R'BIH#09o;vxxo5I#
J*fh|8i[q0,vKPY,ziS06.!<EW8tnGGp;K>.'xhtxYWp.M0X^jjcNVG`N@,g)Jk7pH_HcZ2b4>mXV,LAL4nTg6RlC`/KxG^b[
B&;`AuS>zQsxLUip-fbT[L!vr/8G:`S';FUKDm57sx-n`PtCU&a-80zM|SZ!ut^^9UjHlA#SjPVGV6R#Ml!<*:gS&'~D/*>Z0,D>
TpOZ6kBUY.?Dv3n)x~:M5o?XX~B|O^'j^ie3wSs;*GdGnqH1%T73(rjIMnGGw,H^DZU~6^$xS&Xn]K&Lv#bh9YLY,XD3c@K@eUnq
LHSDvY-u#QK+bQ(WNRK_`Pp@v5dibd'de)nm5=P#lA7S;-V?Tqv#C(,K4CJS~z^:65'3tJuc`Ej3jdd=$Wpk8-y'ht>ob1%NGT
8)_1kfXwM4,2V/*_?$t_o4Lto2|]1&xI1q<@+c1pYk~W=^|.mBN5)W:UQ=I'YocWjy*E,?S)uvfC#DLfsZA_>.x~H&B~(y-6ggR
1'k:oZvX0<:t<G0hvouUm)&S^t;ko6I)08AtBE_l|D[Lsc_L=0x'!fc/F[y@AnyEzF]Q^KK]BKPhx6IxV#J~Lt@n4ms]YIxP2TQ0
DLwRwL~u,[cL~`,R),qUH5r@g<2%|~vufvWm<p7.fm4A4u8jd57X:7_lfG61@:q~'mNtLAHqARer^)Y/u5F4*aD*>0ZVI|obnR<8
40<=SRCIDj&x::I;/2LXMU`UA1KQQ-W&tqQ&3a>_wd)$<r$p]|=-%ud'2KYZ|e.nj0`Y:<hTA)0bCp2@Csepvw$T`Dj||
W_b&'*s:tcBx-Inw&'@hv;H&Z(pZ1fBi>(kn.`NiVUx<x;&3-oj46xn6~$9+:)Jcb=;;F3~Ixe*W4/;I95U6Lud,q8HlR.Z[
Pa#h!mjJPj!k)U5cU3pt6RGJ&59y8~&K:2A]h)g_Qi~%SDJcCG6nxUgVm%hQ0y_S-BQ;V|E`fjkLGo4e@j)%ksVQZmBFH~NiH[>
2[JIUis#!3LH$t`CbxMR!Vle@iOLdag(7?Hn9|:[hrwoFmN`a<[urQ]b6R,==2H')F'yskv;y[+PZ99fcEkRv`M%VF5-XA=p>Y:J
IL@oi|V7&JdIfDi+Lf`9Za4Fc*cbSn|M,ac*I3s>Ix/wW5#7UG5oDZEjjoJunW$*b_+gt7(9Dkav.J<J`pd;S*@ys^X<cw*Kx'x
WzI(/Mfap|%=N.)1D`9tyP%OCfJk;L&P&c)|;kRX,C*)<Yf8oIo2dTkQT|qap&CiQ29]]T,*tj8Y8P?>d)adYD4P4Aqfn
Flr-w.nh%thAw/4eu1.8HR%xiB$I=#vK3T<WtFp?jzxVCQg_Wf7rLi_7N-zbvgUXyIK1_YXHf^(IA_t.L3^bozqT`~gS>oqYdIk
C^S|~$n5;@RiKx&3KEbhNKWBUq-d)eg0Xm8,*iP/!_KNQ!ya.I5P>I!=-9zaj)n1.#h~NXga=m+5LbhHuP4_>z8x0QYVbgox]Kd#
XYJ^rr*>89?K;d0!K=!/Gb&CmGcN)uXb/~?@9|B6B4.PO1Vd/]UpfP/c/B/w=ysF[`#Io8JbK0-Bu3F^M>FWsXkb3%IQWgE).M3-
Uk0El^Mc5lpoP/bH~3Fv@T1Elsr77>-c!wSP@%^2IL+m0-yCJ<1x'6=yK?<QN4#Wb5K1k29*dL=^f:,cP!oYcjQxo32;'>q@TA?g
5pZ^hTN-cd3h/.-N?EJ]iN;6]>L#1!ZfL$Lb7YZSqU+JhMBQ2F|@o9u$(q%19.#3P^Vf5QJ0DU.(%<<*b'k+>Z/jf|<enbP0uc%
2<PMbV]E[$RiP+E_/66Aju3Sv2=bUyy+;7qm?j.wJoXe<zqct2Gg|T*V7<FvzOy>=[o>cP/zfN5)~XioA~@@Y$0]?uQ,3Mg~H-%
U-i(|>_&'<ZoIOLp|SGwZ|wIO@ChlDna58P#*;jXV_[s>)wodrgCAK'~FGmemlP3P*zl.*0rO`7!Xgajhn(b/V*B>Owa'Xnm4Yi
J<v>e,xZS)>']CCU2x6]CXZ(jYIlvOt>,Ij8.~niLABB.YB1DVrVYUTF9s6sd/7nza^a0s;y$AZf-'k1bE&J7/D+&a~fr<2j
Yr^nzb$dBSh7;h5tx2r~v&^r0=+rAMc7u#!*6ldb6*x2bQYR&l^2|?0Fz[J[Ijzh$MrEtF5s;im^3ycIY4S>~Z~ooy:k[<ka@QAS
AMS!_;x!)t605^zKShxy;_ci(RM80/A:i(z*KiBUPrwa._[6W%yxPG?1h#?s8[G(f*0bQm0v*&m72JW%sLxF5|66rH/4u31#u4)c
M^CY6ylBi(E`^<Cmb_iBpG<mG+2#:q6'1tM/CGNI|7q|^%ti_ZUXNiajm0-Sh;f_-:FztQ0Wy!i[9K-:.A7fVC:~6wfTYs%ye[
D+~GQZ%|q)k~+~W^#53j|M@'Y@O.*'ubok('zpeBDoNg<ULSMn<>Mc=hIJn]YEMxu5THPD=Q):hOj&h0QmShs>G9$xXq779jOQm&
36#2R:FQ7wr|v(Q'PRVD>y5],:&l!5]g(+x[T-23f)dT<2!sfXe*p=$Ey)f;hS^?VMEB<+'$i+z?^KtyvqhV~_Z|$W+eS&N5$~B4
OvU2K+00_f@i]k|kZ%mxWhI!zHCLM8&E=_T`Y9-=Yp?L)~GR!_P79JlQ_tx=ZqV-`Zl&*21FwI4QEH_[ueX3m-@@ld.kSQs45W?R
7%:+8>wF7ZGsOj^,do~fM>;l?^>B3z*+XUFEubY/WhPvKCUzA]#e9LW>~@*2]E6<<|Il#J.u($L/N;P~v/eqQ(S0o#&ZGhxXj;Ro
GXZ`5/#p(5%uynr?c?p9SlocCl|_n[ZPe0So=f49$?jb?ndz?7[WHEkk:,[xmo]Kz9)Et-n^Y0grZ'Zi'aM(e&F22ez1?/*akAPU
1yva`tNxB|4MP,u]S./8WU5m=P=3paU8gLGS-jSE?h6DV6(EHYpfyNmbxJ@&9vv_VV1T*N-V~I.5Zq4(5E*Y89i24,|_1
6[;]k^n#!:1om=/glNWc&tea73L_KT6$E2W%kM~bh8CIbL=1a)8u14<%Z=xehuQ^W_ev_W5C?YAF[YKm1VcKy[1'dFhwm>TfL[DF
BXYr=gaId1lT3[>Z0rfw('R5t|lEg@A=VN'>L2Vs`Q2H1Z_HN_kY~8KkY3;r~ai:kzv#y+uq!dTBXVEl:&0J&D&8HbS#)g0w?fpx
Zr4VA9'#xs3pghoaj~6+lD(*S'pX4&7ug;^Ndh_jXIF_(,;RemP>'zw8v$xP8,bGI]-l/+[Iy5]Rt,yJlNSlP&ap/4]om!MHG'y
X<,uhv!Q%.y]W|lhSklM7q1,#_!]`4#-C=Fh0:&HKL<j1Z~>6g_+LH8,g+B6YpC#i8S%JAx6h8Pzhq?I6g~HqzsIf%<bQH:xj
Wz^<QL8x1-a.ln]f5Z%2:S/X+cW%^`R5.*Fco+Ll>k`U;Z`dB|q-1[z;zb4%b4C].x@GiTSyUY9YUV>T0EL_#'B2mCpM;Y1Mo5We
C?x,DfaC[,M3B2j@XRCO@KaHK^lmZj6),/~R>B;&[5?n5kblt4u<[,,7PTIwzNo6BLJWq(u7WP1_5Z5'o/ihQa~2_eEMj7E;$_#
5kV!9X:!:T~?7[SH=_lxrB'VJ%.PXc~$.>FDnyF8).LKgGdm*%iT7[<^S];sh+ET~VwJu50iL.pezm,$'_+-.Z(sH*;nWBel!9[
P/S;T+9;W2#)1]gRGOgS8uO2vCPM6l6Jd!^~P(nOHp=uE>gR1]1|cPUMY!![ahDm=Nx~<_jmGG]p<F_U>r)'YbSMyQ0oh`S(G;d
LhFT1vPEd=hxfKsqQj;QA$Z0QaVEJJ9[VVzNKd'n6+Hzx+^Jb|,NrV!kPZ3?|i:3d9:VbvIRFC%QZdS`ZcFw!g3@4oqC9;Vh?M2R
Pc,S+!3~%2mjId;6Vqz8(;2M[/fF83eC?aqlfZ?M~;M?4Uri&ff*z)1rMjvB!sO]S!Y4DHyWtF#JUDzu@ND+g`Emmeoj+DX~1
1g`;f<Wypy:2sa<%a+s2pmL8!p(/=4$0Z|vt~Td?FQU2:s0sif3Syrr%k:sjA$+Ptjb'?WIXt8K)Dn@[=,(SZrn+d7hIMl.CvMvn
HC:WTgVNk%`>d4lSpfjw4Km;=,_ER_$|=hG-$rINWzYq/A<nTun:?x|<,ung1@6EAwb-f6_;i;u@(fD)&OpBj,(UI+t36vKA%S.w
HW!_?*)DUfHsEN)47&#Yiq$#6o,a+;oYW3^%yw-iQWCTX=M(dKg:,aMHM|]b`?nn/?Q-UUOM2NcD&YOJYB=[m1=@<PWZ5,t,.SE,
SbMxr2RfRhvUkc0jqD$aapiv>X0!Q/*-@-C=e9PW42:k.h++&)B(MAQp+%x)a~P+5dH*]G=k`zQ~TwqeVqQCMDLOdV/KTZn>R@
4~gi8-0GD[;+qeEolKa;Tdz`]r7LM9%ow3~?X^cE_p6o$3MUZk1@TuE<o1KNE5)&B;XoP(qrIIFR(69Pnor'miL@I`R|^SwHd0r[
R/D!~F(#-,?Yn9Rlx.'qr2oa(@Nz-agQcnYb6`^:=qg>,<>;)^*s7YxJLNED!PUe#53qHAvBS/E8w&pv.VY3251~hyCS
Jwk+=$z(/T*H8TtOzh@*,KZ,2PKp)1^23iZ>0K;-]WRa%R/`,x(k!GwO1HmGJnO6j)_[l<%azIDGH+w1sufoN'#(0%5@~5$'Cu
U|dYia:jAMnUdtaHaN/)_LCDfY[[w/E%J[4rmAkyG.3hJIR*rxMhSPV_c;S)dSb!L$(m/8lvenJb6-L@x6=/nst%!yl,L[lw1d;2
UC.FIzDU9Q2^=U%_jI:abf;KgdatTwBrl?5SVomU,YQ?~He]+|QQ?uv(if`T9$'hGiOkdH%:'&`=;vJDauTM>'+r1G-:yhGOt/A
8dDrjYPX8DFto.U]QUF>2Mnoon!|yy#VBQU|-MdE-:wYMiRW7=1]8vbhuN88_XFCEo(EN`^<YMlqP*Rl/ohh0|-qX)U=esTbo`p3
K<wo~F>80+9lkNU3AaOp)-,hnBu><'rYY!W/%y&auM&f/'#O$qb~iX4*kBHZHo^-1F;xA4=;t5_e4=QB8lfS!ylAwmxswwj/C7
Uzt]YnxUdW#ct?kE)*g_L$esIV4pL9_N@]B&W<yR6$nmMN(vna0dIQ4,KAA`f6yS7(B>(f%,8fx~ea,tq1j%lAQ'vS_9w56>b&0
Jzd?M1cWpz!?9(~.PmU3ZUGYj>S_~5cJj~&%54cWKQyjI$hH[CP5NXrHqsSA~#1TV5gzl.,d>,=?*8@okB%=8qN.1TuaN#fgJ;Z
Rl6uT|^3XXj5byuqkCC_07Og3<zbkQ*@`:28[.P)E%X+d4X2^Oi(NFo]Rc5Eh5dC1nu:Fo`2OW)dnkxsT%gRq>f`8WmK3ZGwB>
Fa~od?Dzf;P8yo_K1TLQR*!u!]'0#g!#93f<;>aw?HYi'raqYqL3Fvw#?VNKmH!W1t/42;7v<>%X~L4zNBy;ptn58M_
6<&_;=`oq#N49/>DF$[oeYgwyRYdFjzJEsGAO=KMlSppL_/I3SbXxa8SBt(seeQ.21rG]O%.oPwUxNM&[C-Ivb(!VUDnL[[3q:9F
I(OBm|l%D>T#;0D>$DIW`,CBkU%Ya($IZ)XRr)Al;6ze&2rSY45VOh_5~''-8]9SOM>AdX$&f:gbgJoff*1EAdNxR6?@TPdJl5
N$eS?[@s$oJ=_'gE^ai?g(fJ%zXPG#9ZDYjI&AfuRv1yRk)Wg%ldQZ0W[:1GiwWxl`:cKiu,fG$W5J`l+tbzrwKS@ASzlBqaD_KS
A6>eRD#D-U1m3fX*j@$4Z2UnUaf;z4XkZ'7l|[#/hLlo?@'^%Zv+o9>C|k9H3Xj6p:?g]^$[+?GkuM0Cd?z^ct/*O&~YVh>SK~
R*eEtxqF|OnP['7yq:%yu|MCseZvf&=6)P0rN|-)x@@P!_;~^n'qK.hC_zS.SSj>J!>aZ]5~NLj,*jYpz3RBE%,wu5zows-0<
H&p=$z3IxHO0w'1Q_3mR:/nLSIF=D_sc>p[k#/0xa>)._iNb>hf]!7m!-o8|=H&gK23fY`y|rbNspYEVKiP83=UF>w`IdwW
7ff&_|YL.[:&9FwGX!E2IWUxA?xg$Xd7(`;n9&0@ldrYB~,-cnR2-|hxXSjJjpn&Y[<%P,4!paAr~$.<2WR?>]gBy^6rk2
Nv~ap%p3pjgT!=sxN&^/;PM]](Dw~F/0_[cC23Z8ds[^*9ezhAMt-^H_H%%&b*^QvSee+yz<7$iF0bCK!a^XljM]WJ_i)2Q|r$
Z@e~B!C<`dp=ab-:m%f6fiYKvR:xQ4v_F9X*D',xLn--D7TeO-n_WS]f~7Jkh!>MF|&sKowH<0N_,=Z0pvbz:%,bi_`~_:t`+^[G
F!cu,iMrUih>dEa7ziTVM?PMN9p^Jqb>S,vc/fE(qR4FyzevLF:.P(ZCK*':>/P*Uto4Y_a=pMqx#'f-$2.`.bAUE|IC41@957^
7,a!EaTWRNIzLy:F;K[!?dJ|PbC@29otG>8BEGF5vNW-7(/o9xvE`adrVQ^&8U_u^)kU^Iznz!k*32bky#B]-_u'kV8m^R`XB
L$(bWz1mYn=lRkaBpg5kCG^ze(5HXGPQ<;M6^v.*u!~MKVF&hwoP)yb'w`A&8qWXI;j(Es+MOj't_|$8@/;$JZsdbjfqHABZ%
4ng/+Kcpsg|^!x*1*Agt7WO9X1iVP__iIhA.u7b(A$Q7$,rPL~F^jujV>X*R*.~.u=|g!mk_Gvm6?.$NP/m+]`MAx9+8#xkiT*4M
Kl5Fcwfq6#hhQ@;vYooK&nvZ8x`8$a(fnOo8NyU;7cY15wA0aTmimKV[MWblPz^+,VXmevi0P0'-bk$MV_uS:hvB220n3Zb_
2ny`)j`|y&J+K+wXr|_KZHy]*8_&pi*=XgOa5HgMoVLOrTjA+z5R,akWnHg(G~'+y*-6RU(qAF!p+(7F@MBg`w-!Ue2wnR;5c&D]
B!i[1rGi$5j4vOC&rZ>12_@cp~WZUXA_k,1utt*B*@r|P>qi(Yx[+linhcFS1j,:eh$lg@oO;|af^(-bgZepm07c'Y50&:<x~']&
9uy72`o74VlsK-VCF#uT0/:R(97n_RrAg+D<Z]lSa|Gpl=4iVth!'Qx58[i4dII#IP,rXVFLP6D!iwFyT0.i,~6PibzdDIAy/H+
Gv@z~+--`?@=;DK?|p3S!,zVX8E9P=F0'(V?!x?9k7h*=@2:W$`4miv6)'hEE3#*e`D-l46Q*[K/Pu9LE2tuGaI3!U(x6q.T
R@&%:[az#m[YenIwc-M[2ZUuv_xm/f6Kw&[0#<V.t`G7y`sNE#NCP:H$o1wtkV'LA`V9(nMS[qY*#&nwC;:6FT)o]EHuQH3DcH&
P)i>V!0pb>d9UyiogjfPUr+CWY#:lROd9rpk7UDKKz4?+hm>9+jgVgvuN?.?vfobTo1+[f5RJIzytZaC2Uma%qnv=+9&=5@LiL#
U~By&g_:MKJsGg?m6cQG/&OxzK3Ea^3t5pH%Ui?i1LD&L9PW%+^KF<bkdxp,pNhRsfoBF<x2)~ZgZosFj:&Cz#a&)m3TNY3^$e7z
Y>TpK%BQsklM&7U-q>0jn9pH`XgUw8y&rJZz?LlFS3nm!ekm<;>|J^m[x8WWa?f>9[i.;~)^U0GM=)&sFbT29!>c!^r5n=eyU|(4
UhQt'owX8W|Ap?Ru^xb|ugDyM_'OUA>%O*k+9GJo_AZHMOdR/QdO!Yh=4NJ#07=6LJD!2L%5BkT;@*!.Go_5I`h3[V)N:<%WVf
Kke;#'fin^1#lJ'('Hv053i`zCv6O__t[/t>1baOKN4%*xDc:sH-X&x~X@qZxlz!c*#H)^/T19|FyKMf,:]W5n)Tv:o+-!Sb5eF
Q?M5M<paJ4dOE*cz/:6cfWb>o[?a16`gWNvNl7:)Hy&|rA6>6Y4xBu1fKgxdj%Y-N:v11e]<^/zW4q+RrjrOxxu3EKp]@0DD?3J6
X[G[^7KNC(ZloG[>D0nj]YX!t%,Z@/&WO2OvhIqS]_Kg5!q94O8dB]Gbr/FCa)>824t3mY='!q`9hW%uF;L,/>wy%4guT&p0Kt4
MkzxEz(&ikH2n*vG4$.TjL+S|@JwrfD0fO40F2^vfJqc|o]|^0]l6u.$eE5jv]Wkx/`gi:`uR-l8>BeM2Z1-Wm9qXvH[*lRn1:w
Xs4%G9`^uMQwHY3f1;=t^$[.?Ha*wU~*<?jqf`<LbMg&$RQ,0Tr6]7W%2DrMmEQ%>jmD2LjInkJ@D`02Rs%8#e+sBF*[X
N@'&%sp>s.hCAlz|.f766)x%-Q5QpdPW5L7M!%aZnoj9i5dd[EUBrVU4tE`S4Onls|+O.Xd8~XzJFM|^<g+l'_qT'F?.gJ
7;ewx*)Kn9`VXvT*+'`QN%ZWy8_ZKvW%@-h%i,@t3?~1(!95h>Z;mp@G-v?aNQwI8Fx1[KRer]aY>FA%g67n:Qc^<363i=I4=6
DxqD2>C<,]).;lMs$E3f$jA+vb]LjnKue%zMOWC8n'gl8SD^RIJCqh/TFhTNfT61Q80-($x8bH4%.Zxj1Hf<pOP<`y,^m'la5NO
9wUE9,I8NkN^8_IT9!Ii+OCCH_jl)@eO`5RQc=B6iF/`w9M@S~$:.[GZw/:;&o>aLH~[ZbHL*r^r*!VIvTGH^1X<H5
9el'z?|s(u)h/8UX?;lDE@+Jdu(fCUx:3K2R$X(Jr(g)RrmKu0(nQW#Xv~,prz)znf`IQTT34Ozfu@vMFi@sb?gU`mK8=',4E,Xz
H8QY,qf;BZ|o/J?L|!DfvI@M.YY:F,|A3Ni9*Bk/WkJ1o.ur4w&e$`Btz:4X#*_J0*>>_S|]Rk|v]1_SVOZy#AzBQ!Fcx!*vl!p(
S|)kd~]Ps;c1-^<p$(f(CDvoOr0(!KZW7~y,E/t]Eb9<20r?B#T&Kc>vIK-lS]axJa,aP'!c84Ku@QcplE`|z.(A!U<7oSw3#6
8l*96P%q6yu#>99|+AE!kK8yOyT<$6x!?&hxk8lD7h4qxZz=n^Kh6MuV>%~bNz.oqISeijjUzDz0~,p[*ahDpT%mN]#?*5eI>m1
0',*pd9I]/E,&9ONDv,zcK=ayxIW[V?jAFUH89'q;x-|&@mJ^Ocw&@0r=/.gKqQaT]:Z//~&`m|Gfi>&.t=m%&G,2O9gu0EohS?
Fnl)M+pLA?;puw,DJqOHEd)wlllyQ,wmt+2IZ$,]KY)~Ru#&lNJnN[r`ll:$w3bL(-A^mmzAb*rHt847YR&D-Qa'ES.Ng-7bW+G<
W'&c8=z,Y|P7e7Xi-5z3a@`jmd~JY'17kTjcL`K+gq=,?S:.JX=B>?4DEuK/0rS;j][-DP1x5v-tmi=f.EL8S)Ue`ZV@SHK7uZ+9
Go?g];IBKJZ0YQNq17^TAI6LT</zl4kv9T^=[;(~|*oaYl0TRS.eM]4+bg/XL/>F?cN$h`yWB%Fx?BN+~pk+s=G7-sN|C>I?|q
J.`VVc&jYXhMkiYYb(piS6D=%:I+Z|^z.8b0iB$WTnw$M?Nsp>,<XFBk$-zofww7CWv(F[`Ba1t>8Bp@h2uoQ#be;wS*urXQZWq~
MtdY0+=Wh+OmfFwyC;e@I@EH&i'.]AAScaAoA2TcaD@vdOZ>X7?3UVujbx(obM~vaA?NC!q~*c15NSUN)yhriX1*,d3cPrX1.0x
Vx=^XsJ<,4zqOQW>qQB5/P1~2~yhx!J<fbY*t?k)hdHz,iKD4ja@.aV3JvzBLy08TL@S?kr+/Izg8ufJ@*OAe6M?_iK/*1+4c|]
I;/kwwlPhn1yZ8U^>&]dlq@2mkRcZlJKUm.$~D+yXRF@g|DTUPm3pf?~-`rcoXf|AN2G3kjs]`e$l<~Pk!7:o^x((mnPI8=450U6
Zp[yVWr8BU/w(Bw'xN)$[+V`LJZp6%J+KIb|@dF_5x4EK>OI[dUPJK<G9dsM8%zQ[Jk[Uz-'`F/B;WttqU/[k90-|T^`HL~MwH
X^f'Ket^;DKMluuj9ebY?+XC7qge+z(h<r)=+/SF]&v8.R.MB$0DKZa@o<>1^0~i#m?A;4Re*fW]7=OVWH,eW[U],C`|=@rI2eK5
1J_*TgJ_n0ifK+swdNq/WB_?iS@*I)@XMc'04+)uUE%%Rq6sxb2aQ:yVM^9.2-Y,4:Tpx3^las59YhHmJ|uBA<-J#,,6r
9@]_du]w`eJXo'c/1A#v0ltYNPt;TMR0u1-mO9aYIEVvj(C$w@X(]Gk%<*['1Y*I=YzhX$0'-t|3g)&>x;cV#>pz@Q4C5auEVZ,Z
Nvd~Qr~L6&^WrCQp1z(f1OI'(6uAJa0&Mj=6,D[/D!5-G<_nqcr>VDtA[fAV$|EdBZL|T6qhF*_Zi~-B><>S/vrwa?(o<4Jl.r'!
I.*qIi,[N&UjHz/E^$`7[/`nMq:t)m&cLrR9$*Q<u+Ch*OQ,u?7:_~bp!,kdfoh!SpGBE3Ua<H,GJFBFh]OY4-_P482euj^adxD
Pux|9hjb6|-eO<pF!!LUv^0H!N`nb8oiC[sV]lS2p.mF|,am2JPt~cL>D^;)r;8$;g$dVqPy4)P#9@Z<)',/nM0JVD<3_=n@CDe
G$#xL$uR/O$ueb(c7rYG:'!SA*`jq'>?V2jCOAH|oM_k$V+u_3V~`x$rNYP=tG-ALebDL6W9&M3Q6QCvONq/(JSqS:H=[Bg?rwb)
W]VC]J]QGn4lh?d5@+/]*n]K;R'+9^gk,IY7u]Q6t%]5ynakj%Gi3'9GZ~?B7])RXZ@tNjvyWmwd*g-%<#e3^So!RsJXi~ywsw+h
IoVGEj'avArJXA^l#.(R0qKU(;s)Np~|;(ECU-XnS):O|[+ayGo0SCD>s`3yHlXGaLrU<xyd;15rak$)ksmC#Vb&b$0|*_r
Fjcjs=6DA2&P2SnRIH]G;gm5d*tN(4@g^oM`lW5ZMnu=?3x7(%XJdzRnoJSTIf_Imnc%FHEF]g0LR?))4'WZUsKc6,xfY/b$q-1
D+an8NjH|K%My|l3t>?,bA`|&i5zU_8f;q^V'.N!.ISJ;HpdF;skoO0Pp!Wt7t$V&~/7DqhQ;)UTyhDD%+#<lJM27fZnFN/<(CVJ
D+k&7K,,x0yvq__m|.?W-e1]#0^B~8I!KXZ.DJv3z*5<nl5$J(H#IS/%K]v|BV>eDe2]F`GXp^nM@N]qt4wE<f?`jmb?d@)M?xS#
TQ*G=9'YK!p3=.$bYK_WjE;;Y]j+>)I:O~@807pzxkc:r';&jt=X:t_qcwIizUg5HVCC+a+*~u?x<Vg/]g_2~yy$3GnG'q7E)7Ds
D0+]2;+~5!AMCSTh-)9WLOyU@Xdi+YK[wK8F<M|%(XxjCLi3xTiA_KVtMce7B)=X;=Sh56%7(!Z.%ng>:T1uWHS~'Lv(`B#b]`
R.r/oVo,AZK/ug`^F9zTr_L&,697[zzI>9fQ!FR<f=tR3XY@D>O[f6RewPh)o?k%c<BEWv/$7g&X,bwfq<g%Q)?-LR?X'[GG(v
Vu,d7j$ck:$QkKJR%pm`g-?x,>%XD^s/Dw6nv#+W&5s>p)]El5K/mqtB@lw=&QGK=evi4%`~+R*48,`t~v~W@Ri;Bvt7Gg`MYD3O
F.RNBYvBtIOaLb|CQa_%X>#6>Qc~@|//jbsFX<lp9jlF?B*5ccgei45zkZP?5LZth7eDctwqJhEq5?wjZ1-UmO=|s03s^_Jk_eg
9h_hT@<>-6IN&sqXmp*F,rJkfQs0]M;k82NU/T.6d(q@MM5_|el/C^YR$Ir$Q!6>%4)[M:)_(ow#L;bvYl!XlN8ac-]>/(dR&4UZ
V&0MrWrH_Ua<^yJ@kZ%u[<^rxVbDM[ZlYQ!1<(KfnEuC?$&F@A$kkFjdVGeGp#*[R<IdWo&OUx;fA96y#o|E):ue/TTZpACA|L
Y|fnDHnex>Y3``1';tTYxB4[%2fGsn&l:Qcw,&4.TTk*:wxGRZHK6biER/5<v`B/:R-60Evu(d;RjR@n@S83ztKKHMab/8WXaE&v
M0wWHv(q62[5s7>8K;hN&KsVDzL-bU.S'C^2!d9&B(x9$x3I2s,?><6woU9v/B.J9tk(3F1.@[eYo@vtRn@8cHy)4xWd4.td-v_)
J`SM[M_&@^G65=dHPa_nG5QBN+]8ee%rnz]/>:fH+w=.<5S5T]ji9u(uVDN7QVHp&Jcbu];>R?H]+#R;=zL2z?$8A_y+F]#ch5FF
D8soVP4%0`8K3kxEVF?2vMRK0lgwlI:r^Dn$N~[r<[+VU1MucFBCDixoqog/T`98Du3a/!rh4C/7arb=TA.FZ6jJcq(xUF(o3E=
Iq#f0Kj5Ws9dW5ka!XQrUn:-C/q_o/-Ni)gk[)TWHqlC:ze5]UYCcu#(KHho5B92h<u,#e24[4P22TH_:^H'h(1X=)aj.CGOy8'7
XZ=GU%i(Je*-#wzUCw-avd`;kJE%Bo4m!EXLwleEz:l',U(kSq2'X%,5wRo:!3YI>&hVEQI_k[I5g5rnkT#d=s)BMx5y)S56Ir&
T:j>%0cRFUp=mm-lem?D,9HP10kvf=S0y#j_(cFoYHr2F[fFDBw/d-BNZF#g!|O$l(<3vA&['qu~-?41y:]1x'VRKq^7nZ~4.
3~vvM.%9&)[Z_R237q4C3@i0;/k:^#.#=f?*H*T)B%Hb(CiiMn!%ZAaK!ju1[[OlQ:$~xP9p)&NI7zzm8M_32z@U5X+w0M_|xdi
8i9^_,p*]'fu%;(R|wDeS.S0Wt-GS7OLP[We<AV>$sO+qgMN.AdBEpG%i5[@pvR@TEMk;`E~IS'4)PTuJUA@lSwMj/J@'I3;J>I(
U/-+Yrr75qN]YYyFJHro-*'/m>]M>u`c>w<oWqqeH=zD6a[c<=grSA]3p6`[P`x`TshlkTFSzCMnl5M`|`MuCkNDj65mhEmGc
Hjr_Oq&3k|~]n>f2Pfce]W^iQEnyH%F[8LM%,+`h+)cO^;?d=5$P#H^PtOz9`'zN)E_&?/<J=+4wnTfL^c%c-l7Rhxq.W'?&ACKK
05!1=Fx-L*284FvAt3+&_rM<.QXE@<Nom%'oSV8O=ByI1y9$=`_Mb9KO:P|&OwbImi>^A!.u0$)|G(Ing5XW5c62A9Kukksb$`
Kic?V?/jZc=@u]3:!C7R7Hj&eL<V3V.BPcZO8f1bCk/M&/'Xk:&%TU%'I=b|h[44b6m-Ubf)Dji@gL%L7OHEa/0'Btv6Pm+:q*
X[/#xJkuO9VGxf1p%[Ks]q[KV,C$+Jl6~EH[8t?Rh5nea~,dG*t*X[i)p'YaC/hI~;1n|#|gVzt;A&M'u@Hr8]!!WiV&*M'*9E?o
B#maVRYV8w-L[V4zU6/ZSO:RE_keZ4A75=c@5,f,_'x('m0UERXtHz%jGK`K8tZB/c&sHRvPfM|i-,t'!5TniIIrJ(eD?OSA47!
5!CT~*J|cqEi.8S7LDs)pg%I:vA;fb<C~5y5*8HPfWylQxPo0'SNI^1+R+]rQ~,h~'?+`X1p/|/rMzS_y/m+I+c$OPxJD34ry)gG
VzQaNp;i=p<*~61:~n4FhuiDL^kYZJ:~Y%6uCC*bTg-X=*5v~jZ2.E]O_4A1x(O.>^mTfckICff^^~-(b<SE[#lQe1zgy#:.
F''<wlkA`.PUxPhxm4mpECeFM4I$4qyv]6#f[ku5c[/LJ&;5E6U94%t)n7SS|OQgfsy&S~8aD;qJw#@@2]#Emwg@.gJWbGuz?e[
DnRhvxQ8cEX:EBECVk)%<'^&7s2^[(%C.YUrJ:WWw_*unRX7CEe]~F<FdH9xR4E+lWfD+O-2Kr(/66d?V~PAYr3/Fh=vu>ZC~U:G
X3CjFccgVRz'TK?)KM~[w:Dt6O4LA&k:U&3*OD%>L(VkSGr5O3(9t>9r8cH[;Ufwuvm-O'-jU?wP7fT?:8|.JpCD1O@^[`N$#<I
1jcv=9LPzJ8WQ_]=z|$`M.Vfh$Klq4$#]~qE@,pl5+NLq=I_swb~-`T=BIxJJ,6F*>=zNyu.*$Jue#2-0=%%/bX|76D~]?y1
L%mjs%xGDgW(~bz*]d=,TQ[Wm7g6F^2*DX?+_ZIe&N13Tp,=uR0a=3HCu2iHH6ei/^~KQhg@obNXP=#MYFpf%=!`.P:&_BFo!8-O
8m>BF1r>.-^Jo[Ii<kmRKv9[39j6XCk)k>YuAT%?J=Pd|DJ1rRkU|q*?p9dXiOU4774g^p3Z,3kn/m0^e+N^uWa+Y=$^`;=2t,!V
DD_HE,Y8B=hh)WPR,4n]aZOAkH!GcQN]T|y=*'~|oR&`tf;Ez)+Zi>t?)CiR<T%oiw`/gbNRVXx'VL*78@cB<<R_i$eg~:Pv2vk
I(HBJ^Orfi>A(btF3M)##]!6HQV[@8IT])W5zc9>(]ZIjO`>TnYKC$_LmM6.dRSYpW/2G.>>^~,qF>^oAoaw.;L&eiOV3ZQY$J
Te<nU$]99gEW<[2.]8.GS?MY-*,DaY4J^r<da2,P`)wdwb&=f'mIwy#V6;e9mr=@,pbqN(X4Pi|@nG/okH;zJV%0&,(Pp^MJ.l
No]J.Z=K*9#lJvVSara&u_Y[%tA1'6P5g@w#.JED?f6K&f<*Sem6w4n)n.Z|E:24Yi.GAi7i3?s1H@MsXpU)4q+in%g6es-t!RU[
1(YMoU?p*5RI-wog~n`?7`t;b#B]ct~]:l.O/G1)7/0D+wsFvT+q0yj/,UDMJ7di@,Z'l%q>IVE#mkNomOYnA$Ui#N`DO#y>#lx
A~4NnW^;FAD.bXLF,.4hF&c'0/4<+IsUvh;1c*y=JRElJt$,E>IdkJ|2^CUjZ!h2q3*4C@G?:09u9rKA:&=z7E40$#sd|;u!~4t
ArWIQOOMD%JTx?R,^61USs]jmrBHma*]s+J;O_E-Fh>E;Pdyr*9th]eo,;:@VP#vHuQHq.]1n1IKB#KZXxCeUek-Qk970dE;]n:k
2Ys@KS+F^Ro_DT%'D-a.M8FN=;=;V@=++a]P7s-H@<Q_;stitIx.etA>.=k==Wwu/_]^mM9SWuLh|w)buzetiUw]6-&Bf.ErMSLe
6SH|E11^Mh7n+v$yi|_Rq[o;yMB+l$ycD))M::AO?dDToH(u.icvB&@c57`FZ1i!.+iG2O*a#wuD(ixMX#/j'?C$wF7wOI1J|e2
Bhhn`P0:1fs%E@1@n7~wnb#<k.if8S#kuvP.94`<v:d4aC%TDlr0,DqWSJZwO:r`B#ivI%F5A8a$MSs>u^mn,dw0@3gXy4f*?`k>
IY=PD`MRYM.D4yto_W#n-H~s7LJG^3aEN~RLKPBYm][=UF-XoothSEq/$X*AN@v]MrE@^Rv'HE,'Z)q?dq-d;]*@Ai2n#[j5wgD9
Q<c|R~CXQZ/~^sIgggP>n39~J.0z@4<>ShgqGIRsTAszyP#9po/eyIW0BPWKqE:mkSwN6!JBS-@B<1[6*pJEs;C+0R
E,>>~j)kzg@fQ3n0%Abq:T(9(+~-a|O49S~,N3Dp?OIGUG#?_`6yFDsr!Yhg<$D6yu[F@ggj9Rf;-^LMd;wPQU=hhJ!!<i0]'3s
SlL@ayNE?>+%Af%5$en]7P9CuX9m,:!%|VsaMt+A:.%O$;|~l93V,~hDt2))nWok._AKJ/@Nh?-$~Ca%kN0L)713EU`VaHYJ<|
4;p<)JK#)NIB>]48i-dwW>`$1ZZE>|BCAEVk]Y%_aQp;B2]M+Y)a#lP&'nj#%|)#4a?hNqP_8A<jEqSd4`I~;0v-fyr>i*f'!Xj
9iDr*H2]hi`ph#itH1;Q51Ib:a-?w*L7%4ksgh`tEj8dE-HTA0kZmUUt?Xjc4r(ME*I*l7fk'/Q%NzI;*t)P15@RnoU^3c!6.(
6bk30#=Er~Xhk5iN7Svtg5w!!Z0b&HCYMwEscDm'Xqp!'^M35YdCHIbSp='EMFX3%Pw>G?nhnk3G(:ftW;`kf@)&#CYT^&#
Kxg]ubQD%9EZ@_OS>XS,jy~k7<S([r(AABCjU,'`:B__&~jth1%TwI>4*LKmXUMq~)tXcDy%~`~cWcJXR]Z^~[0zBXplB64y,wHu
SP!'k^;.(t$Ib^ioz.~i=|s>[@0op~;~m~p*rHru9bf2?So|)ng[hW[|8:e_dV3yPodJ|kgRM7r+A1Jw-t|WP?IVl>S?n[p?KR4
MnvthJCPIc*(_l,?8X!<VrBG],:kTSpOVrwbs]]A/Cae'g!R;5;Nn2H;DT7kBr!?zrbf6>N>WSac^-3)D==$t^A/cV=^i2tDlc3R
Tp%PqHK*(BfeQXL:oipToj&HpvlUHLzkLe?ZSJaTt;OV9Jh5gq^o:FfW5BGD3g+w>p~GzR;j;D5D;UONlx#FeUp6cbMcYSLIh
Ilgfx;MFsv#J4+;njTR#&xVodJ*>a*MTmo-vo8+aN6PF.f$rt2O4q8Tv@I(icy>,WPGp10kV)q=pWeNZ4wX.PACcBQ`%~^J1!Wb
Kb446hAFS'H!<+KWOOX;HL;_'kSJ_Bn~cf[W=VLX$.^D:JuUvs'E@-5?+`oHLrr5=SKfa3h>@zM3F.Np/Gv<'dXykdg%!dpP#(r
4kC1I0cfXkVz5DAiCB_hf>jE$#@m)xz?E*M+SQO.'3~>r>W!d5`wp@1`JW.H?9'Y>?H53L|oKmWZ4?BqoXmB:l<B'B5XbRRtL
8($j(6W(~*>064r]vvpj@?ktfO;9R53Ghj%AIz%3/~H>JLPHjk>'eDInRZH3,DM&vo%7t'c[3^/P*1eMb%i|uU:Bj<WZwNCvXYN
B;~cAa$2wULBfH|Pi!Wl*Cu&4Kqyt/.=GpcA/.#Aw.lSAWZ5[qNwVMeFUBFa~;lo1w#:w3v3?(uDwcz|!YY<WH9sa@6)@_4:
X-@cd8>aH[fL8Sf9eDm%^W?tXho+J=&_iq|L`;S4G[-/lvEoh4O7UZA?.7WqrxiWp$_&N*P-dRIQ#/t$vd)ij/v&ir68EAea!p
E>yl=lfQ]gs9?6'?W4RP&G^pSuC*=T'hPGXVF945stlfD^bccP3iZ#|<g3Z8Ed]]>'d;*mN&dqEn@h<SurWDvQBUG/,fd_-?SE7E
A*=6j$gMvri9>vfU6T.VEtjbVHfcz/?:5E+!-<Z:lkb&DA0.ItaEpUr;VbAjebvL+so<O=9.7uPys_11'`!GAwZG38~J`A.>l%D7
Ikj4fs'(~>o89g0n;Q;,qFh?@BYn4ew<^>z;w|@=r,Nx!5+zUaOg5[P>#[I3)~En~/mbGa<m1K,+i&q~zs)VNqtx|K#!GP~&GOsb
M1>NbIVFg(.z!gZy*fJIXO4CtUYq-/HY[jEsC|[T0Cdg%;si3R(7YWp3i4<zNn4`vpQz3eP@p[r$cVhnVb!srgqc5*A%~A?L
4u]]x=1;x0$E^)aN[Y^d]+<f'KZ/!neJ:_S!buADp2]wM`MSvxKpsNel2ds~SxKP#::yrzltKQPF%[:Y(Fzgm0NEt1X|l8180H
Al($U[.j*vRH.VvF,PeLn=Hb.Oaet^:HGG#T<$AJ*/h^t$2^0eN-oAZoL:52L@VC`OGrF176WvH.,Q2~Z1aB6[I@,Ud#bG>NX9t,
5P2Ag~^5m1lo4C[&cfblUBV(FYnw2EtF=zay)*[7s!.?@j@PM2*x~pI^<7bqO6zkpRXz@ms@M2Sl6LBUNdhG.Kn*'R!]L$fd^5oO
Z6Nlsm^8(jgTN-`IqD8vcfQD`GkP37QN5HBW[7VN;kWn(t#sY[6%13-#Ot<I8j<qO:~,PR;8O;=o:KgDOTUNmcI91CL1n6zPEYsc
WwMUSK0=pLet]#cLcw7FQ3L2`T2K*AQ.9hGK(u:,6(>590u4X6-XI:tr@w$N4]eQr[r4r=S#=%|P|?!@~7-A(uu'ezZfkF
4<w'ggc~L%zMr:dvw5>8@c<`bJ_3|[#hRW._myuIK[ih4#G5v|2Ku1I!rv%!)&$V2DzxAzFTP`mp]Ds;>hd9WyF2.M:Xt9Y3VLw
1rO9b5x<Fq=Z`Ir3WH2DUoB0UWb]oh@Ye$z+2n:iPi%ht>Vq*yCd!iyNG't2|H2e+iH@q6wxRMS;zo./2*t/-Qh+gSXzlm[1`O9w
K'A-NkAeFfJ7+bU=eLt$`YR4mZ4Vgs8x%u=?pav`HPU9</R4P(1fLCQ;7yzp79;b^kCj1IjPw9?NC.!2Jotn/@^*K&ViSVx6v^
Qw#2`jhr-=~=U*K8,(<H0=)Q;P003rhOdNAt49%DxrOFpGLVZN>x~9K[K6P]CmnO~2_ZN_1+m4+yhv[^JmF?<zTF&@wR,5f=sUk
2cvE+_R@^#<.TU_Ca:]Q`-A2QFee*k7e*`KO4+K8'!oIn_@dCk#ih^j|A+==Vx4+QRwx*kUV&-UW]ehxLgREW7vA#?Vqa%e#Rk
Hdkc%e=aF3>=0>OZq4U!ie^4uP(:MP.4ZP0;=%|E>YYJE:L05RoI'9n].&C$CrV`])59[xH1NTTd)Cm(;PS$9Mv,2oR;q
G+~t|drhHj8J['k:1Y.CF1zz>oT;<|=Pa8Wc?8jPpD07A5Y%xFC,*ge[et]*K8YEiY<#SIPps.!3~lfF)_]#lsKc1eKZc|*cBzV
8|t[nm$psRl!M|y?PsC;05gT]D`T]5*LOmIeCQh.~Evs%)xsPN~-jsd=*Cl;WQmrT!(uzXrOgmbC?8'~d9?PE%~Pzc~J*kS3c4`X
I7fwHH2RfkgJ3]&cA<.O0y$1;+?bt<u#(m&Ig8K&-khm&;)z[oyjJx,#-t8]H'B6v*tK@80@KZs;MIsAL,LPC'a:pe)qI#(TW0D
2a93AlUR(F*)xh+StgHSk:8p!F|l'6x|g]]GdM~x[Q[[aAU~IWBk:YD]|jC]H7%`$Lotc/|ep0=1tiZB>-mp!oA-Ha7h7@z8ok;X
U_SAL:TQa#R3%11L5aRl?jbvRO+92Qp.$Li$/L]_',NJ3du*]zKQPyZ,7h@6RN*+q$:Onz+fJsEK5*]~*,O-9[RoK:?dtzDVYi-
BkMI<#|=Ui0ODF<@dK[%i^&[OSf*I$T/hqry(#./58.v>=b4Ht9w(i^ol#v.UlBhNn%9z&njs%MW;j`v6sn6>|7x$9L`2L&66$2F
6&zBCSb:F4Cav,>]Fy6ND_.3znfju--4@MlQ`M<L~Z&<O`uT.,yf.a|1ac>CW9(BZFV+3+E5//rTW*#rDu*tiRtjpSjxZ
Zk)'si%+:]oEVv.O9UaivGAiby;4*!)d>-DDqK7lB*d$sWe=|$^K%ZB>+D_!aujG;<MQEsEu62YT9*J3%dL0CG<Z)n3'$3HaZ+f2
MpS&-(Ga;UO_2?9_@)EX)/8u/r]m<68r5N_x7G>D>?C._Iq,mqc6gD!LTJtbu0|mXlH_o]-uba&ZNy1b~>C.RB:C*'ZH!`C0>_O
8_@g6Y[8sq|/KFEHG@&biS6y%SgHxq&4uK6yO^GU`e7xw5d]H$f|-~B<(74pO[)lE[vK[Pyx8pb>zB`!tqHDtu6r-L3y]o1qiz&'
MO~/3G!A|0Gb(<Bed^$,!a=?Tr1kdvL5^!.0;*^w@>^F'.Z/S'65XX)YPi`gXd[]L'7p,`H]qUiYJFlXE6_q<a!MOw(m[7=$-3;
Mu]K,j874M2/!Eo-<ViriH%:`>AHS-mU%3D]a[WXvbBI/(v33^8iY^ZY[f-=nHjo0&]!TTv<c[i=XItoIr*V8fJx[?!h.<oLfm
P]r[hH?Q$AqRXOnIPKET>:)ZYFXUOG1B1]'@MZfe%4T*h1|'wZ:Qo4qBR++Y*R:DLG~CSH_ag0m7*]U-)hf^-#DF~!e/'6vB
4yxz.8m_x2zKPsFan/ZKfoEt?q[X^Cr6t@c4_5l,aje|=Tyw4b&3]eAbL=`5Q08=aVbon'9)4E$bf[aR@$)*qaq2T'=)Bg7O'-
Zr.e#U6Zs[W&cy88uNm-YMEnXl6V|b<r,6erQmtx)|%JKQTXC^SH(:[fmx4)FRgdiLs?I>Y$hk6;c,@Hb8*jjn%3ry!-tfC|PGD
8!%!hs`[ao[[<97s^0k3B)U)[#BPB)%U/=nj|[R>#fBl+pm:yE%!i|HNV3GP=7=|'JJdVi(~c~lJSz-:zd<)N^Be?R.&Z?oP
O@a#m4oobP)%d.!JfYx>5<CmXuo'ikWwmV5x~3|GUu)~BM.[$FDMow`C>g[sOz_UTKB4eX`m+wxShU/y1DS2h+G*(>v7EfT=,YZy
LKmopAr4l)6`7U&6x`:&;,o?87vV(aMS8r6wR2evdn?~6[aN:3<@wn&iy`c<!R0d~^S((>:^a<gvN@|w.uzp55n2t]UBxm@sh(
Tp~8XC|'VxAn(m4CLxO/;:!-svA'f0,c]bq![0#&K82$w9m[Om+PAj;&QkFf=vRJKrdxgn#sA8Q`5v:7);$9f~?2%w0_,](3G1S8
X|)D12fKi/ht?Vi52j;f>Q0xi0FYIgSEEh)8)hP?W],z+!#*5f*6cfA88Sx$kPrmWZIndC8g(,/lLjy=agFL**k~m2Q3nvVxd>K;
S$%O7%#<gg$u_'u.pxs,tfJto)Ck#tL=U0(<>_2i!T9^cyYVB0_1-j.uw2SEQn0xr'+wXjVJxzCVpX*u`?;d&*$6z%;iLS2&|hYS
E=egJh_Vd`%R[kljAzg!s%@=D#GbpTGulZI@Lf(VrPkhi=OiFQ%CPt#G08vX5v3)yD@zoT~K7t)h=+KG^'9U@921T|8=cjV:BMW)
93v_b|tDgE'8CzKUIr2&qR4yi$/gjA0+ieWktAjBDR,NA!RWk=cBx9AYtN63M-H[lv~=~!/05_E^`jXR_|q135H?G#q'4Hn!#Kp
4=:UONV>>;;|?5Q>+TK2eD,&llA8z4a?'m,`P)E0OR*.l></D,.kw^*_Ps$7_FY8r:I]bd^S$SxTmrvwBs-iC1|!obZ_g[kyp(1
1<^XH0q>+wj*2@EM<bTyLh/ofYN6xWV9!m'<[$Z10!~_=Dt(5~4`XdR9KPdgP>[iN>2])|!ild4>jH[rm/mo,8((:$nzoHwt3#~M
Z64u$Y5I@/rBb#=~rfS6zhS;p>9Hv;z>HRQw!?lzhbNq?NJBxC9%S|bLM4[Ihj6zdjUDo-;kdh!eyoqM^=9GVa~.*Bx')[UT5
N-h)'<4Zw5O1#0T5<)D]DYgf:kneRKnA]>UEz60DX9F*c;[h?41qoAUpp>i(GgE)+u~>E7Wc+g20M)G3X?T_Vr_cn9$yN?f
Tjkjl)[6odQH##U)_GH:7Kcihn4xAKmA(!0$&7ch%P5OP*h&DrZVqz.:mEy-B%BGA<sNVL7oGV]_mof/wyKE5tmb6(h@kH=pAT*1
Dz~Ma8v.ZVBTzY+UrR-ECsRw:3Y@hLm;C'I+3:cLt0h[C:;4!kWd1B6T*z=YLf;+><XURV/wAV1f!p+@Pdf+FuR36@*Ll@O@+x3
8t78;|*e^:!MMwRjWJC6pXu*hLS<^Yf,[P<^tW8(J@9'EuTlpG5;DZJB_KEL[1tu'K*.Gh'D<y.`Vt=?vF~Vt+7vBiBXf.-qS
Dw#o7,B2HHzTR9nr30Cx-;'2DLk29&dO7+anieo>AjEE]?M.%/!1y%qo(+c<R/dmECavH(pVeS3%U0fT_#ZUCYByybdA02QQGU
S`wk6jrm?2eJdR`V3lW>^%*>I]9NK6Mr:OK&%r$j%H[YE/W3bl^9R.?'ITq4/v5cGR%P[I^t'f8ev2ugeYqZ9]w.TCtoe`$[PPF
Pz>yr|K]qH[]hjIb9&WX-RLTyL~$^v|Z9Pk1j/`Q7nj4P@gtr9`C%59~=XWOj,QNd8/B`<E$1LTxf3R^Ifp]eEaJzVbs%H(./
Dls/y;RoL^uiYEIzlZ*(&6xQ$=:)oI2wvdMM[`XhKy[x);<oXsa+1^2MNcL5n$3l<r_lk8>jfL~]n`waJyS@FwmG.z)<*d[txzX8
V`C`^nrB_oN#6CzF4#&VRQa^aOm>;Lr/,|HeZ@9~`SRGU'Rc'8GA)j4VNs6AH#0`,vlg@C3'Ve,x9+4$sIF07)|p7(tRLSfFExj$
ETgM)~INtn3N:.ly=_=x;MM*y!@lEuh<o:c%QKkoc%Z*+%OTj2R:][rI=t[Nrkw0nV_JjmV?b!.:f`;YJ4^rBd8754A98z?I
Hdyfbn^&Q4zACa;wPBYaZ4_$T+nPW3_kvcWjCcZY0S_ZS<aD]a'~9~69:|5+wKfb(Bj[Im+~sv*<nxwaG]v42CE<ziC520I7
7(/~pO1;/1Yfd]YknILqlP-eFv$87)iQ+Z$Yh0SmnoGF!Ql1OFi/S/u(G5&hV<_a?DTf!KW:-%R&)yaON!AC'e~n;Tn^-e_*/~Fm
Et:KRMiyDnoR1.=couF%Jo#ZNjp@lUw/Ob5p|kV:u6)yD9>wz@>YGWRfM.O:pul^i/_i`T9N;v/l:2vKTF*=4A#L+1P^dA2kj.B~
S`ONez[,V%pJ$w$jq$Ut)'nQ$.]Ah-l;oyw]VcZk:l?qdf2ht#q8&[3RWm.#05D?~QX<$sk,VnU,5#!_B$:yWYLRY^2+TJT|OFv[
Ats+j<WsZn!2;9E9lsQBG,4@=]lf#Kfq^FX/cUo_5HlqP>B~l9erVCa?Q&.7HE35Zk~d8sh~VLBEwD6cMn'&h4oZWfs+!KuL
P):r=pS+]5&Il-5T/ZL`;R&'AV<_=0/Ul>LsER~C6NU9Wa'T%qmF>Jr4taB0x~!Z]4rmVudwY_MR5N0|.gH9X;DP_9bLa8:+
Z[y<`A~6(=EKRsIIgU[K5g^@:'Tv<;L+y4*0PZ)p3-G31kifVjP.b38aiV=@D9YHdy]bE^0^]eS,s;5DX=dOvc8&F*i4/l:<.f-
M;*f1K6KD.rgO.z7?va+%WL23O8t8Lyv$!.Oq>I`1v$!`[F&g8WbHYgsj_E+YRfLyg`8Uu6;=?Mt<)))r;=~j=Xc9E#C:BnI^W;e
79[^-MTV`^x.iYc8dxXjnUT:u:19&%Kpgd;;?&tRd_ZYp:swp(X,T^cYBX&$sP^FB,aqv$6q@tULB@C&V|G+R,V/=Adamyj4;5
Xx@u:a27Q=I4v]@t=1N)a^sOO%.57io/Mqp4][mawZ6fLii>YcSx@DI3V96>0>c5;q;@M0zb4woC!#S%K68iG]ab'<q@I'$a'6PE
6GvlrW%diR>Tw~1-?y>-9<z/3!^p?88,qu!%Ze,`oGba=O7XNmjYjrfKJO*r8'Aaapu7|';s!NxO1qH7Amks9K-h'1hE92T<StQU
Kh`OAy8l:^csLx<A;d6IYn3BzX<v(l7J/9lc$aWTE>$K9Uwz5=z1yM3,Q)i897Qgk`|qaDqq2Wj.'w]8H>-t*?o<&wf8~8~zjTj
NkB&Nr96'Bo)3d>'cW+2wKudF3Z?r?Z%^Xh(nw2nkIF`)qL)&xPdA'R6W%%|F5`'8~_8F.46q6m/I%enI]#Jtycp/[IynP*/6
0=qaG`UnfS,v,rfvLmVmd/C,y^92I:(_Q/8'_D'3,$/j<3iI._x,Q/FOLo:jtOfp9V%RT.B%-Qj7hDr5E)$Mo[Qh;-%C&(XX-Boi
GC=Y`v`1ay5[TiN'.ou.-a:Cu!;TOcn4wj&=Zg'ET'8]=Of<.mx/!e>=U2^D5%ldD(s&%~Z85!1WP/rtznOj]w7B8Ei*V!]amP
F'$GP'UXN1GA2w(!R9bIn|Nlau6?6'6(jdrw7Wt#_<N^GyX8B)3Uw+^(g!^mO8eZ|$!m|5WGgM-XZa1PBpzC:.H7%n6j*Kdl_Zpg
T3qSX7ekMiTZ2Hxgq<$u;%`U%'*&9M/m!9VM`Bct6V;/Rj!#sY`2vVjP@m8mWd.18F6++at0J*.^>0D$n]$i@z-ul%c=__Yi>%|
Eh(~SNoRI*61;NA1$D]3z1(jW7azKD@lRn%Qc%<#DA)ydI](eZq/j|nEsW%lxU!M,>uB,|C:@Lc+<z!Y)Uk(t7e-YC$z-#vbY[|y
IF1._l%#~z:4dh)hg.PpEi48|Y96q3];,gTBk&]bU_.s8^AT2N(t!C&i!y$772=RXFxiBW>xMoGm[0._79G>DDSASjaJB`KD>KB
JzWo^2A2];HJA~iX&u<eguDbYhtD)/cWLP,YLw,wsGZ%oFNnzIBjHdf=%q,|t8nXO['z9,+N4e~iu~yRbfglw`;+j<Scv#7KQ102
T9n6^R$@s*wNjN9I#|vL]q'3##BaS|JI?QD7-`v/Q;dhU%P446m$L5r<VLMj-<zWb>cU4e_!SNrr>Vcw$DJ)~F(!eK*.)KpK@)zO
M7uN`1j'%:/$aqo$@][Zug~Assk?]7@HI%`lZg&mfm4RD<;j+i(8F*ZAUP9U7W9.38PDzmGC9F9.@)XaxE'C]b>V[sobXZ)K+IF
9[[yhuL!lVp|x4*W+rAiE`7ilciF:]#1f~qvGRy1|6,OF'PG-X[$-O53%5)7:T~RHq,ab:210+luu4+hAa.9sL#sqP'KURLj&vs
SbJN)COyD<_Tl+[@Ma>?|#rE#Gp:'-%9b)Td(i5zd<~]q$7:G)12wK'UUv7e.]B5-)0Bd@+^q`&oeu>IlyGV!&q^S>hKD2uF+Cd*
PpXb`>)svl`2VPIXCh_EKh'<Yc?cEFb]SY<Zm@m'mPz|xQPNiQuHvc|Qa]$/FWo7M8u%YApa,s(]@Wx16jv-XWr1*<B+Q5(%F'7z
REJ/kPv'b56Qh.K,zT<.PdZSQq2kX?PF4lW(RELl&hBj=iV8FxOa7;06wI'Rt=::hJ3>LkRxMV?TtBtmI^aMP*@_:B@j#C/*,.
6bdB'J~fs@-I&K7k2jOC:(F,6#;p<|P)>ngNhQ-icv:%ClAS?OjM3AsjP0wxd[$9QAnT_GoX[_1cZj'1OUMmKKcE:LD'sNt?&A
P;s%H!<%z=deD?=wr5:V6).[X#gdp$ZjIT|rX`;@vHeZo!/gTQ7]~@`qKWE*hB;>ve#f<[nvZVBPfc59U@WuKkzDKlY7s=zh;^s
G]icU/FIqGHgL%b~Wkw7iEV_hkS]Z8*DMUb44-Q9m%GR]R'Z.R$:$vFt`Wl.]_^Ezlq7WwDh7*fQ1a5a0,pcmGSY7'o$1#4?Wl,R
7UuR~P&EG-CEa6'Z3f$jBEJTHQN:I,qmI%DO^&c&Mgk]g;i8u34,_;&M9w3y-^y0SD`XPNFEJ)kI/XZ@x[YP]!/S=]aG&
7,hz)nzu`fG80.L@Y#51leW`|nXv%z+-pGUgx*1[ru8E~/;o2b8_+j[d5@J0_xFkaO:@W(,0!<r+X,HUR_O0!wbvBOd>hJV~
T*.v=7Ij&nX7vH+@aT@dTqnef-#PY+?9gyuhv)ry~3=QLJxXjf(=i7]A&g|=kqUde@u3L1Bz)Us=O$xGk^&Rx$hx^tnU8O;'9s.`
S&9dRw@lLh~IeXo~0e=ge)F[62IVj!Wu24`/xEq4@%dr&;zfH*'zUBMYj51X@8r292)+E4pGWSf:#V:z'QqH!-?V-<=.l|*4<&
TixDm0&~A*NzS?8->d0h+2_l%(6O#kxrbdh=!)cyyU[7/x/pE4(]4L6-mQhvWw+0ot_3C'N(CFn,)6C@xp6HXoRzI;a9vz<N@IQl
TRQA~_'@uK~6!q'a)VR$XkgPogd~|hHojNFk|CcJCdJq=#@n)w07VH<P*F.C:uO~t4ANHmkM'yFR?isMY1p@9$|.44^(4Gc|BN8
1m~[CVTW-dBWIUU@wNaTCR6(2TyA01'sZ.qDuR0*-]N<Nt,Snh'8Oih`5N,1Frnownn1zpvejGtJCLjtS_]LE&5-PG$<SA:
D`|]n!K8k+?P.g1gd]|/,a,t-1W^)y3BBx/;1vYVD&FvG7d8[rbq9I97.+4vl;QV@!~9pd@_Q23#DyV0`#D?jWJ5-4c:/4^^e%
S:vuu>51z[!9sz`!`zmY^#qL^=~4KA-Y=_/_Hky0fH`Q6f)>a#G^-7C4LM!~Yr:~Y*x0srL0cF<o`#),sU4~u[kmL,s'XqK~PIfT
Nma=|[th,E+cj:o,9MqwI|V%b!(otIF)brRv.lfT#:)+'Pzj_hmMl_#)>OLT(o_1``'PK:QAUe:!3*`,c=UD%DA~x3*fYej.Jhsh
H%%;ZaAc/EQ>G`Bw|7xGapKD<vLR6TCSoB`KZH$OQY9%m*QTqQiUe&3I~TEzms6~B6FBv]!wH.$a3~~C%<HT[P[n01bdEZpx6
H@o$hrDT|sChNwS3.QOe&bc,)an`_<GzK4.Huu:IsCn]gU&>[_Z~l~UN7&mwO,g;E8-?E?H3M][Rm+*xa>5#336Hed!cp.-X,nnL
UF0p&%u$FnU>fC&m_]-8nSf5t9$P'Cj$A!$/1CCw^dPG~966kDYFW:.pY/*eHtGl;J:@p$*_Q!r1bcL'59)*]H^lQ'ajX1I/
Mg(k>2@s8Y*~s+ih,9'o*/*IQJjLK]YO'T;!Cyxr]XI^0fBM5-qIJ:76]^3_!XMkNR)o:VL:;^2mi1j(#1P6qm-87lr%hGp)
0t))y%WX4HIw_bc&0U/(svBbBG~2q9/QPMXm1uU-6MWe=J'-m(>H`c7)OiXtU*F<9kUJ7U@3TevJxH?jp@X/|Cv3Fb%*'uaL!#HW
R@#nDB[dsbcAr/[!i#[#k%A6gm[KQA-:&3=u~qj[;U)w>mTxi56/~u<q&Z1]Y8K)wvf=vF]EWsTilI+uSL33]M6=<uGv%&HQC~|z
9nc:t>U)vP|.q:xM!i8))E5&WZqUl|WHN)x45_@J2gl?b];:QvWn`?#+xO:z,Sj8*4Pbu+|2(?g$eGh_Q:y0t7FUbbo]#&`r:j&
6)n$=&U5$=*q<$Str;ZJIWDVz(@CcAojVs=%jM3j:$0^^q.oDY$(%,d|^1R5g()mX(`EaX4B!<^QR9WnQs-pg:?6DcQQSCNPR3>
Oc*M<IDwT;m#'ApGy6jU%1_&'.+5:fcZhuM@E~fb%)_9Q$6bsq=>:8qRYK1:K_>a(u|Z_#:@qvAbekEguW<=^nh3(0)s4aMf_3Lb
E,1)^oT>AP2fLFn7&n&PcW*8w$cM2DVddlsI?'@>hl./NY>jDRDE?l#9wFx~_UnEH0hqwF-O#E|jbFr'<Rx*&p<h;;v$D"

/-- The packed cells of the tables, row by row. -/
def packedCells : String :=
  "
 !!R?>.d/yK.K]pa0g-+sgRm<u1(<0NT[B_C51ibFdk,~Ih2<A;rCH=S~Np=rl/sKGOz[)A|Cw7vIzJOw],R`-fD%~KK/,<j
J'~l<)S##`c?,THjDhS@ZKhsu[vW&Yt`THuZ`s.MVq<2@Qv[(xG_<LA-prWc5p#9wovHqfvDzfCC^>H`Cq?<j):/~@8s!osB
2$e`w;Sa8F%~H=[]4SCfc:$Si-?g(O+?rtYNo;rWKG.%9bg;1-Dz27jVuKcyb`[o^DFoJljd:b3w96ByME(uVaLIeaLRoZk~U:~S
LlO1/$qaBQ#S4%jc0b$!vCh9-jpGZ?M;_A,8@J5f=@;yM?&dTZn31Ivr9e2JWW5Z1Dn?yIH6d9&9D3FWNTCuXD8-&uF,MW>H2!>I
NM^e)45]q0*$(41Ezk(mJZaTUviD!^zNi|`_NYR4/tfVZv$6Tfs%[+|@2+oGR3]@5mAMIjc][S5R8'f?_1BjW?<X!sB_<y
Sipkp`yyzZpXO.)XAI[BWI7bktyG)&wbdWAobMC$F.a0qi!||;4nx|T(V<v?:#4t_zE<p,':g^/'16vKitRA'xZr|u3|(O+lbSNN
R.-I;W%`C/gc.1I]3pv9X&o/vJ6Ag*d=y(xh$aoIILPJGt*o_vv:o+s&&Q`e:mk(FRrG6JEtDkz>(q/Q?yT%F'HCPL!D,`A(
Lv)_?bWzfx%GDJ6h'?:orQ52x9B|.oacw.,WNyDXjS#`a7xUp;]%xzrnr`S<vAP>h=cpVJ`Hy7UX$2t4S^(C:8ej8/^Lh^OQ'd,y
NW+Ye`%q_K/(v+m1?O=+#H4nF+:ISCy#xq:`RJIMa6M1)<17XvJR1Ld/Qs/dL%%%hbnP]#cS`q)<>z]BMBt.xfDJ0ixX$4*856
Diu`j&X,.h%>Q6k^)tj%@A$7S<TG^*zM8))QaY.~XmYRQdLT'QJ3#o,M'syPX9O=wt2gP=a<xZtvC!w~,w2ZZ[j/Y4D!F
R,-]nh<qI+#8Mrqk3I`_!T@)||Ddu`3|,>B-2S?E@_ft.:vIu!3@Ek7:;A;R.>1Wp/*(=]yq*]upVIPjchwKEZLOUt/zh8Bm'
Xvfw&F6Ljad#+|fklI?jlr8.x#uH>e'7,SdWyj<mYtE.9Y9VNANZmPXvA,$-zE]=)8t7IEd&+0Y'|T(F@Q^64#)7f^3!UfSN+%
P%hqmjp`$pXSN!#dfRJ|'9HiiC(L)Jp3!gLf=UA)Q<~G6kK<bp[H9neW1iz'u(j~2qwP+k_9(s@xL2Wt1&nT(!Y0ZD7!ZeR
C<qb-r)I>zogMl/#CC;nB*x0|@86qy-HKBTKQY8@akXi%9OQ%eXf%>`v^4kyd(7'(W)MDqIyKA=$N:.mT?8|yM-U`|A8]k6$&:`
Ja<$r^4kbktp,04W+`py)W1`cv/DTMSn%E><eFZh.|@n[;s@I=&OfX)(pzlIkylL''_;~`fX.`ro=yk#G)6yTB#klGzR)8B/k;
Ofh$V3Tfa0<40a`Rbe#!k^oY.|EfN(Zpndew7N%|rzi'rvt3F!2o[TYTV#?FT*&|&mO>7>3-49DtgK^Fv>9;Z%gK94=&kn5eJoY
0]OD_lL!tf/b;c3+0^R~ktlY[o)_NFONG^ALop8V=+w8,+`=z0W_SJ8rnT4T_s`Qb/wV@YbKeJbs.1(HdRnI:DKxy6Y6)BLd<7
L+u'B7J_A1EgdCxWRCieX435,4ZOLo2Z(MR!llBar15A<aU+:-VUEB0iPk+m;T%:f<fDRVIgVcEN<^1wzsr;OmxxnexEQv'OrV`S
Rv,o-yC,VLbQ97BX4jQT]6R,OO4LhNPef9j[u;K*8+k9;=T0=@i[4x72Fa&`w`zCh(krQQexEiiDcf&7!B_Dx%e]Kqzu]RCN-0v
0/'&Rw`(i~-=WBl`w2*e_DJ%rqA#W2cW+hjpYv7$PVu/xT?KBsv6rzmbzHFlILto1c&N/^2D^2x?2@9#=i0=2xgtB9ds+>'/L<
8ngzJ-~qsrB@F3HYy>pB?Rk)a1/sB<+OEJW~|c&FF>r>mhVYn58*I6H+%:~i`5z)UIyf;;L18|u'vnSfM0.b<WM+`&s(JdfhOf
3|u7,jiSJk!fHxmfZBI5FtSO$C<m,g0/8*1,Sf:R/uwM+~f`GWRutWw'~W4?-@$[9R~[,KbBg0R%6m2$$Rw^D8n.A6`]:
Dl(p)*eol$]=O75bIq1,H?MerGjDrAo5#TXVuI`@@l%nj8ndkt5,kY`Idt1==rkK7C)pGfx|8>>LneB$Wljw9*Uv4[|bjI
2a-?u;wBU,UiB!<h2k5h*__YXKBE%ArMLZi7Cla+7l%=1-mnK#pD!i.>;aSG;!T:?OlC|-Qaunowy>27HN/x&8r-[#UZH=)O-].
2)o:cvO>IwpyaObe`HaHC;6rA,2I23dx!79:^F,:[X>YoZn,CYsap1K>a/~SyYPpQA%/8TKgH'a>g8#|Zq>&Cp1%P`:2'Y-&_r
Jm`8Kl+p^xRb%z+=_!y_/@Fc`28AXiQI*D8;wvh3T8<Oq-Td@f3~(PL3<m&BD8LIy@~+lR|)re660mz:)?>:&zH@V2QLO4hZ)
Ub~mr/X[v,UVt+m2vh0R8k!O/#5xw;Y[sAj/h9~O+A/vX3G!o$fa%1m]+s]XN60@]k.VXE5T@9'aHF4Z~-rz2UxuzJ7s;,nBYWU
PdEDq$a_`&fOXMWk]q6i=pkkc.x$>FvQ([04vL/0$`qs<rXxQ<5o*]PTfFdO4HmO;~!j.F~AZpZ-6@=`DaBcj@>,?b9
Nb>sf'fr#&5]?]~|6R6p&.egS^[zY%t4N76wX7U,X!w|_EYbv@:5HfUpjf,.h[Fi!=s_|B$Ck4w.q(*nV>3030%l#kFs^IMaWS^L
Yp~.JHVt#1>$`&pKU_72=XpiGv&UMdWqOKRrni_31V&c7>-jSkoj0Bg0;B;$<tMvyIhtoG3SuMn8dPZ<-_+~c,l0BjCkSJ+b_u
H]=VA6(4Zd/[3bDke!~,iB(=VPV4_q5JAlf[)p5Ga.BW?PZpjm2P.iU)rZ]6WGj)2!+P'6?cLZR.q^>%Uhel&J$)su`]pd|I69fT
V$^9]g65<C4$SBo>7Gn=,+Tg.X&=t[L>dk@L'Fd`8l4'%Ly*dT@*DJV@L%K5?~WSEZ4m#]1o,jhjTcetI.<#IaLJ<.TQVo~:`xQ3
0<`1MfT;])Daj_MGY-S`HgPkFzhF=C,gN~/C<lN:5z9vj[2$f^J:W0gO!27,N..`lHPLqJlx%-b(lSzyv/ulw%m!X+,@<9G2,Wam
8T*fmMnd/,v8*FhpuZ79^D8_#Ejd.zQNcZ~@-s7-pyaH-Ew<U;f`:*zuJ=Chs_D<.G1Aly^P+nGTVnvSTDn_k7;^Um)[mqnMSY
Iw-4-M(5P$P4Be>FT6KG6jr!`,b<|s)Vg[@q:!!96NAa)6-91!pGQs&W41OP;I3H`Hi>z?@he!@1%,6/x(My1tN`u843l%m@-O
3(h+sr)eQr-5@[YY69r:T1JWCm0!^Iq'5sj5CLtPf`8qQkMTty+u!aB[KYXFz3cfT*F`i'Rnq3+597_~mk:tcsLhxGeaHq)<]VX!
0Yd>@)rYSDDMgcq*`TtuHc2RpQA)`K%~q/ZIF=oYz#4F)TVP3u4uV4nM'VFGKulKz#ApLsN3;VJjTX=gFHb%yrT%bvr#1E0
C&ewd#*m0X#()tBqM<5gq)D~r%PFhj|yY+dFhQB'#QLXB|oGseBGbKnWAU_d[~E^31LD@[_[8tl5|J/tU=tDmw@Eq[S:,ThJxO5K
9&eyfAs6(PP3oTWbKwtFHNU;IT:QT#yZ6rfUm$7S`BSF'isc'I8CW.MX5NVbspJAJbCdF]Mcd+<'aS_Gc-O`R1'U1_|!3+$o;O8
YoGEPB!t*ONL.Ij/OKOK|8FciX:8pwCjMIi/qekQNCh[pD:lyx;14|$gF_j$Zxq?ky973D|CMthv^u*_8fDRyofW8:J8tXI5!PP6
V7cN@JsV80w:K[FOJ[za@(T3+bN9X],EZNRT,//WGl`OA?qFSs|sO%]NkRRyv(pwgskbf%13o,Z2xI'dF6CoXSz3Fn#muB$|xSO
D,*|!1J'W=z|*mn'Sv5@b>*6DMHg#7]r!9@$Rlz&h|L:NikI=D9m0Qnzb?=~OhujKF.5htY#SSXrC-&|fvMRD+/d!Qlw@F(GWFE
S;Erk92(HGd$aWQ/h%D/xQP'j3VID~yv$%z7lRV|is7>b3cGoeKY1,pCpGpO_ayQ!e$|d,CV;o_d~c`:eMHi-b60|1rqVX@UJ7
Nx`Nhjxg[F8f_306rrVbM8?7'yl^0lHP8UYLJ(goZic7AK3EEWz^H@G$|3]*VO3`NivBT)N80u+',,,zIZaX2m6ae$^jd1^h;t<
PqON'9~Y?99EWR*?Bx/NVZpU9YnIpw+pP`(R!H$UqP7r)Q5a4'aiUnuh8gK&lk[b1=7:DK8!;4I`YBYlnm$TBfi<048^tT24u~.B
V$K+>`D-;hb>%b:hSN,U)%8(Hr8G#kG/b+iS8nSNz~ImA,^G-J7H-~[;+4<lm(#,%Dn1Sij'#o,#iw*yZ|G|NB/doIG*g)'T,8
5~_@[w|;l-)z%`POjTE8XLGY7/m#X;kOCcn]G/hSf87Xc(33),t%!NtLd,xT~A%VP9INsZ^AJTQ?ZROT>];TdU1I-wd%+$fdi|(
XlX`2V#rc@B!&(&oU,(2R*lEHG=p.e1mX_O4ev?OkjMk;Jx;WxJQhOgtTKc.|IHHJ||p[mx3YxFGl7T6$ZfTi7kQi6J4[WF(iLVm
SSfzx.ML:uFOV]2lJ*monA.lbMIl?VAlm_VtrvlxpY8'O'Fqvuy|q=Mfz1IKc`yFp>6iXUTe7unf:hM@F|]I44$DKe*bB,$)W
Tjssj2siW_1#xP2tW:#PJJezx!CTtfc_4<2Cgrd)Ox4O]*IyX|Uo*]5(/f)N!PUOLR#S*U^>-]N9|'gVXh41[k173gYPf/n0aW
Ne/,x%D6'r2o$<p>>E*&Np;[%Bp@kH9KL:hyr3X4K_l;&`QZbXo9>E%ZpHf:g_p1u*:?1Gql@rAB]KYqawmpHm$Y;#5/T83=M^^$
QP9]XYJ6C7r3Klk87&vaSG`p>P,Y7Uc"

end OpenApiClient.Charset.Table
