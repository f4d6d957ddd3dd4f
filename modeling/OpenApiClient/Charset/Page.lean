import OpenApiClient.Packed

/-!
# Single-byte character sets

Sets of at most 256 characters of one byte each: the parts of ISO 8859, the pages of Windows, IBM
and the Macintosh, and others. Most contain ASCII, so that only the bytes from 128 on are listed.
-/

namespace OpenApiClient.Charset

/-- A set. -/
inductive Page where
  | iso2
  | iso3
  | iso4
  | iso5
  | iso6
  | iso7
  | iso8
  | iso9
  | iso10
  | iso11
  | iso13
  | iso14
  | iso15
  | iso16
  | windows1250
  | windows1251
  | windows1252
  | windows1253
  | windows1254
  | windows1255
  | windows1256
  | windows1257
  | windows1258
  | windows874
  | ibm437
  | ibm720
  | ibm737
  | ibm775
  | ibm850
  | ibm852
  | ibm855
  | ibm856
  | ibm857
  | ibm858
  | ibm860
  | ibm861
  | ibm862
  | ibm863
  | ibm864
  | ibm865
  | ibm866
  | ibm869
  | ibm1006
  | ibm1125
  | ebcdic037
  | ebcdic273
  | ebcdic424
  | ebcdic500
  | ebcdic875
  | ebcdic1026
  | ebcdic1140
  | macArabic
  | macCroatian
  | macCyrillic
  | macFarsi
  | macGreek
  | macIceland
  | macLatin2
  | macRoman
  | macRomanian
  | macTurkish
  | hpRoman8
  | koi8R
  | koi8T
  | koi8U
  | kz1048
  | palmOs
  | ptcp154
  | tis620
  deriving DecidableEq, Repr

namespace Page

/-- The packed code points of all sets, with the replacement character where there is none. -/
def packed : String :=
  "
 !ALi=AsOalZ_I|p+p+aEOt4J#&;V:qW-wK|H;d1~?LJF5,Rzb7~T3cK?+75Gdp^$.-=J(h1)yE00?`$sPsk&.!=scIpN6PCZ:PA
4ptW[,&NbP11?g_J3Ul0R;0Zb7L0S<3S-y`%cZ$C/?Jh4p%%5/E6zX4X$oP1vU<-2!gZ2&LaB1:L;jRjLJlmhTC(gBJSg(f?E&^E
MM''$EKNuaQV||ODreLjYLs?'9`AZ|K9K<s5VkehiuLvg(5Q;CKs0;~bKnsLhoOv1]ByFY6iQd4zy1Ml2S%hph<|2%*-@hYR4iqG
02BEb2N;9c5n#2~!8D201u?<vQ31PWup8S'p,quryEbXHIV9|tka|.I_+:RwesiCih0@mRiq+k/Sh]g)~l5$2~%!j!e_vm.g
M($nax`_e.q/N_??Kp,6ZaW[C3fpKL=-ESrE#W5#?</Nw*m@I$tfIRV^ZL@UqQm?q$V!~9`[;U]:QuBN^6_b,T8[ia|93W'P7
M#f)1~o!OmXrPxxo$$Kt&~.s#vhSEB4|[1dT&us=t|>FWk#J7Am*s_r:WvsG3_sb6:Q~<yXXt88,hrKx>S`9AMogd0m9Va@ul/U
Kv;4*5J+w:Vt=%;#kh[P)fYcPIL5v),JIi<?@@.]Rmz6>a1x8B;b(=PDCL|bDz`ILMJ9tdE/*l1bqaGkUKfMd47kU9x,g3UGQ$^U
TDKSm<y8QVeo6eg%,J2iS#rxr?S1,Gw^_k*m[2]l]LgA7AY_5ZAXj3p5;Sc_WmrtVu(,,3Y2!9cg<PRuca)Zoh6AoDoeG]4.HX
Df)m$S9S5Rz!qkT_Q%!urN_wOAICm%Zo#EUDrr&j#u.Dx:3WC6%jaFz$j7+!>r:C5Kd.tb-gLf/?7_Zj%P7s,'IKeMk,]0r
1&/c!vJ7!%tF[K`a[p%`r]160ec,T~L,_EaHyMDp4^wM.l<@_6,[YU*NN)L>nB<&VvD~bRra2>,Op^=v|pp)z`opq*bJM27>Dt
Z]=<37wMCUahCDo9(.%l*U~N)B:#UfQdRLY!ylve;=lzst-`j)|hT0Xt]pSa8=;mMbbRf`w4Mb=0wWTNM;B%mkoeOE8EZNPL&/Fn
CKXNVC:~^EMeUQ|=6S<Ur]GSTEGY.w_@/%suEvo@5s&ftATvPRFbK0Qo8Ds$6^0=[)0=AQW&UoUcn)-<RiZB&oJ~7u-Hrq)0A!Sf
Jt7_ArO*Mvp-whx=i`a~TmNak3#g@!p%:Y1uo?0d$C4(YUd?Aqtyhbzse297|Qq6pMwW]?W,Xx-'AEXqx/>+)Y&(|hddc4yi8YQb
Bq0:ljtpCH,9E-L#LA3]iLYj%';+x$WEp_+kRPcpaPaAkY6!NHr?0Z6$i=q&E#w-N)?j'5kOlKA%??k.m0<*29nhaKq_`H-Sasx
IhIAV(v0o,i4:yuSK@$W&s/`T;Vj8,47Ms[s^]D?|wPH/B7*c`@t+;MC-DBfbey.+QW/=vyvExN`w'T>OF1.Wo&I_AgxMC+J/o:4
G[nN#dBC5P!ct!$FR-xFc(:fBm@kI-TAitlVhy-cvM2X[F2_JpOkU!]dN0%dKxU'Q5Yn>!0435SC^SN;T*.;wftbCLx=|lz
N;?&x*l:/a=Mzy5'c1/H?U+vy9nqmFklfMnech+b$Ip46*c]9/)juaKZ-9p,x^bxn0hC!aU@lMQlBz+>`Is+&)De(lsNyAWTKNQ)
2FnXlwW^6Wn>f#nEC$nOeT|H>o!*O[dkF6/S1zO62eZ$5*p=c[9^x+?k6<e.Xg0]p8rCH(xV:q<zpTa?E@oatX~7FJa|nA=h743b
GWq/!A/)_E@/d5D&z4;e~Jr>VGb8I&l%@W]f#gZ;'I22.x7)(HzF;Fzz%HxQ`+,p.q_OZ>w:J=+s4WK_t.l?mFQJj.fm-[Zkk
E$~n=n3&!TMHf;QYU@A?6sm7x@`AOx~50Ll|a/awAYrL@|2%?aN[q_s,~%57M/:N.(jIZ,$Cpd'bU$.b@/(4OQr=Y7awMrhwmJE+
N]@F/uRG'~)#3v/qdmE])|jQA(5Zys_@k/C|FMJ?h:+Jx/k528uIE^y~O!LE%~6+-N;1h#oy$a`sX,4?Bua|P!^N3nq9E_>H9o*
2(;z:#Q%#u=)hqTlNL-@@g#g>7ceUy7U^b=_jpZEUOf'%bS5'kyEWQy9gnfrgSmig;_!/s@,fX?ey2u:``1_'%3A@5NpSKhAk_
Uow~Hz_qDR-PjwX:Q$7K?e>.)@VAO/6hux&y5I--K:<:N6(RNHEt3Z$,oul9|&+1f0z$Px+kB&yCf.fGY-U|eXjG!]?c&p@0:mSo
L[VXi@JRIWqIFnW4xQO%E&b^L=qiiVrCFgLff*.<PwUh0xHK~#akU%;'N3l2n)i+r[JE.b*ZPIg7%1r2%RO_~z~EwFLH%xV!kom[
PT45)YoI6Cq,zNzE*(Z_@UOxStn_~uy3;'jBn/xfd*H79)<SS|:<y7=q.%#TG)uiq9u_R:s#@Q'!D1r=<h`HfaE,|hdVK/a(y_H|
1q,]'--QVVe0i01&ucz:=v:MND2Q|E:qKtnY$S-jbe`ol[8khS|(v(<(%u65M6:`NQ0=j@JhhD%s'.eu/#&)At7rq&?:[[R1au:4
IW!|>7KbC0mI4;W5R^J+mmpKe49'W+H>e@d<*[GTpXnUmK`;@j~'r[kd0;:h;L,J*B44'67ZIubc5y3bsndD)(,^j2FiV_V5Od/
P&n?i$JtQt488#0ee>FrasN~Jkc<s[Ihx;rM?ou$`:AZu-0>XGXF$#OP$:$@$?~^|T[,kT9PprR)@!0wU;nV;^#mu%+dPwcsyx1~
7qN0w=Z97dx1iGK7.,cw;Qg2eX|e!P&Dg,B0vuj[[pQ^lPY['G//<hKb=;L]R!oJM&LE'LgNpf.-</sR|nph7&|GtaE^X>FY3'
TbqD.$453ToT&,DqnIi;)@$:D$u>a@#oy7I1]12-Nev:vEVp+AF=(a&<eurwf3d4tN_g5e_|*eoKrf-U3&ot|xXK:=.
An?/@t~nr!u'Sx>S82Gs5mBq5l~YTs1e;WWME%k/JZYK2S9|OF6>%WL#;cUR~xQ~Y3@EV.hwz>$O'OZraJO>1<~-.ubI>^>SQR4v
NT_0Bx`GD4&hdOi@]+'U&|^Fx%9+?k!oU1mVN&caM*Ad|hR?K@u6I(?dFPliVwL?.V^cKq;Ar3BAo5'_&KA)lLJnRaxH
P-y>:i&xnaq2K+aDlMD9D`Bx#]pJeom3(A_KW<~QIvd0<#Lkhnb76H:Mc|(e0?(dS6t6><ZR0FS4TxG#@>QIR<e?TIe)rT_/8M
R~md;RmiH!|<4..rb^h%]yia:.]FxHv^)g#1lAV+!<-y|Na^xzL'e?##!X;EXIBx'1/]?gJcJ>s&FH4W]l]v.xsZD7+|kgyKT'n
Jw(rO3G.+MvEnot30%2x7$i2bV9m&Df?.oT7IV@Il|m>J:q1Df?x/G@QKN305)C,<J]n,'a41gyST!.h?%7ycOsix.$]ueM<77eF
3OUg]!i'oYbFY?/?.fcP/%0cTg>F`~>wPN$5&|bauYwKu5/vk]*lL('K6-!Uf|h$|u|UiANYCHCFLQ^;D*B>Ti,QX!.]5q:/0
M)zlDvzJ'NYf+~~KZ;%c~y$XsbO-U[m8y>75G`3TSGR!v|:3NXZh6DYGVm_gRD56AhH/Y4A)&5to~+Vad:;;v,om@,sj`|T5'LYF
7.tp?#9I/pEw^[@H<AGg%i5457V=]m*+/KM7g%@)1o)09zm;~YX-/P>^9Mz3j7ev[R1Z`)bX>/vF3HuSbSC;,Uph/#$G<8L:*^I
WjSI`_L:F$)P5NS8~xQnvpZpQQMBKQ@slXnV.b=q:e=DcIk|A~U3yGK2&eD2!Md3>o>Yr/i,qPXCuQy2'>UNt36DkU%+R#N&l#
Mtg2/1y)-Z()wE-/srKw`*R2xUY~b-+R/PplUo3k/v-,^8c_,R]F|FM?U&`P5Af=H:`Qul3N*$<s`9x]wz#`*2*T+Gz'cZQ^j1^U
Z$dx3-8+J/~2lx]oJtLBeZu,]b!v:]Zr%Om+vZQ<|bON3.0f8/O4~/vhe@k+4rY:H_TlU,AmZ4z53n$?LKdTNa_2OeKD6|#q351O
1e6xNQ)yKXgj:7(WkOM9^<Ub]Zob?MM#]JZhXGF!DR5tGEwMeM6_1>&BpKh2gxPkoN)]3;%X]>G_F;ft_^j..VF6+|aSy7LM-F
8o)_;MmREkW:GPBdlkoX_:j;<H`[LVOLIZZQ6TI!`#E-Y%-_,U'hx,!m7)x)azx9vw((/,00*<lOKY@0@.Xmlr_$kNUlY4LC!b0
Y_=3D8-((78(7e3uS0?*6aoAz3H=e#^D,K5e&aH2ssc,pwX0F;syt*?=a~U#hl0e.5mjc3,!/zoB&MC@-jzVC`SBzR`D$u^R%y#S
0BQJ,*=h:|Z|MS>b1[8qBHiSW/>=R=XwUNQ(VNA4caiVMfj3>ZF#ZSDi~~D#3G56b%A)]CJ>MB?0LP/`9P:vZj+qt0_8(q:~
D^b~,0s#<.6);OgEH%,^V=Q'03v:[HgMN'>),Zey`UHD~KP(!ir`"

/-- The characters of all sets, from the byte 0 or 128 on. -/
def cells : Thunk (Array (Array Char)) :=
  Thunk.mk fun _ =>
    (Packed.lists packed 69).map fun points => (points.map Char.ofNat).toArray

def char? (page : Page) (byte : UInt8) : Option Char :=
  let cells := cells.get.getD page.ctorIdx #[]
  let first := 256 - cells.size
  if byte.toNat < first then some (Char.ofNat byte.toNat)
  else cells[byte.toNat - first]?.filter (· ≠ '\ufffd')

end Page

end OpenApiClient.Charset
