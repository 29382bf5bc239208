import Wirework.Text.CharName

/-!
# Names of emoji

The names that emoji have on the console. An entry of the table holds the names of the next code
point, and `@` goes on at another one. The sign `=` is the name that the character has as such. A tilde
after a name says that the emoji comes in skin tones, which the name then ends in. An entry that
begins with an exclamation mark spells its emoji, and one with an asterisk is a country with its flag.
-/

namespace Wirework.Emoji

def dictionary : String := "
 H,= I,* Jar Ker Mon Oin Pal Qen Rre Sle Tat Uit Xic Yan Z|s GH| LOg WaI ViW NHG"

def table : String := "
 @A9,copyright,@AE,RgisteRd,@203CGbYgbYg<$'49GOtKro[$*122,tm|trade_mJk[$'39GOformTiM[$'94GSft-$-(_J
 row,<#(_up_down|up-?#'<%2pK_Sft[%'Sft[%6<*']%':+6low^%,;+'%&<Sf$&)%,.[3'A9G['._curvL;'(^(*[%)hook|
 Sf?&3^B*231ANhourglass_dMe/%'28H?#'8?#*CFGeject_buttM]$'E9,fast-forwJd:%*|[$'_[$*,%$(RvKse^%+RwOd;
 2*doubS_up$()up;&*[%0%G'$+)]#(%&+black;8*_poOtL>'+triYgS_wUh_vKtXP_bJ|next_track?)1Sf>)Qlas>)*:0@$
 )1^**?)1play_or_pau^=,HHH,>H-flowL_sYd?J.not$K,F8G/)1Ztop/$-Rcord:L-4C2,circSd_m|m,@25AAHH]#'B6>F)
 %M+/2(;(-5C0]%*back^%(?O*/&.FBHNwhUe_medium-smPl_squaRG:?(<%8@2600,sunZunnyHHHH%%(E,phMe|teSphM%'(
 11H?#(4Ncoffe/%)8/%*D,Odex[H-up~|poO%^'$&'20H?#(2GradioactiveGbiohazJd]%(6>&*A?#*E$1+38NfrownL_fac
 e,RlaxedZmil]$*]0(4$-*42?#*8H%#1Zcorpio$:/5F,chess_pawn,spade_suU|^#(s%&'63,club$%)]#'^$)5,heJt$%)
 ^#(s,diamMd[$)%$*%')8GhotsprL?$(7B,RcycS|?#)L_symbol[%(E,OfOUyGwheelchair<%'92<4*medXP^'*GbPYce_sc
 aSH$'(9?#*BNfSur__de__li;/(A0,wJnL,high_voltage|zap[%(A,$])]f)$x)%$)%E(B0%A+BDHZoccK<$)C4NpJtly_>]
 ($%(8Gcloud/¢)lightnL_Yd_raO;&(%R,D1GRscue_workK’s_helmet[%(3?&+E9]#+F0HHNgolfNboT<%(7HNpKsM_bounc
 L_bPl~[(*DGfuelpum[:'702,scissors:$(5G:<*heck/ð+708Nemail,fist|raised_$$'~,hYd>$+hYd~,v|vXtory;$*w
 rUL/$);*(F,pQcil2/$'12H?#(4?#*6?#*D?#)21?#*8?#)33Ge$C'-spoked_astKisk%%,%z(ed_stJ>''4/+*47?#*CGx]#
 (EGcross[8(<µ-753,questiM|[#+$<)gRy_?$+]>*$&6exclama:&->$/[B,57,?&/%&3$v'vy/(863H[%*;y(:&/,>$(|Rd<
 %):''95HH::)A1?ą/$ĉ/?%'B0H?#(FGloo[U'934>'):*'dL_up%Ď8up>&1]ú([&4/%*]C'B05<')^ė)?Ġ6|up>$/;*);#'/3,
 B1B]6*B50G]P*B55Go,@3030H?#(D?#(297,cMgrTulTiMs|japYese_/%2;S*]'(9,;&,secRt>%*|/$),@1F004,mahjMg|?
 #*_Rd_dragM$&(CF>±*jokK|<#(/%'170,a|a>**_(blood_type),b|b%%7^')E,o2|o]%8p?1+pJkL;'(8E,ab|a;*=91,cl
 |cl]9+cool|coo<$,fRe|fRe<$+id|id%$+new|new:$,g|ng%$+ok|o:s,sosZo/C,?O(!/$+vs|v;%+>0(E6GRgiMP_OdXTo
 r_a$%9b$%9c$%9d$%9e$%9f$%9g$%9h$%9i$%9j$%9k$%9l$%9m$%9n$%9o$%9p$%9q$%9r$%9s$%9t$%9u$%9v$%9w$%9x$%9
 y$%9z^Y'201[£-heR]n+koko:%-sKvXe_chJg/&+Za$)(1A?&-:l(of?&2u7121^&(2F^&-RsKved;&,6307;&(32;&-prohib
 U>&.798<3.vacYcy?%-a7a?(.assL_grad$0-5408/&-no/)46e80^%/t[6;6709?&-mMthly_amount:&.$-/applXTiM;3-5
 33$&-disc](0527^;.opQ_for_busOess>&-5b6/@(50,ideograph_advY?ĳ($),bJgaO;Ƙ,ccept[%-;$)abS<³.300:Ŗ2cU
 $Ĵ(set,$$+rise|[$)HNoceYHH,eJth_afrXa|globe_showL_europe-<%)?&+mKXas]&1$%,;&+si^)2?$(-austrPiaH,ne
 w_moM,waxL_cRscQt]$)first_quJtK?$)moM|$'*gibbous^&*ull[)*Y?%4la>)3wY/-4N:0+[ŷ(G$/0:%0la/%:?/'<$-Ns
 tJ2?#*sH]J(24HZun_behOd_%Ɨ)?Ś(/%1lJge/%7raO%%+HNtornadoNwOd].*%#Bcorn|eJ;p'$$'HZheaf;$'ri](+NSaves
 <V)ggplYtH%^2<p'>-1pizza$&.?*(curry|<#(/,(GramQHNfriesHZweet_potTo$),fish_cake|]#+$Ǐ*swirlGXecRam/
 13N/''GbQtoHZtewGeggNtea,sakeNcocktailNbeK>#*s:*.gift|wrapped_%$'GbirthdayGjack_o_lYtKnH,sYta|<#(_
 claus~H,spJklKNtadaHHNbambooGdollsGflags[@,_scQeHZchool/Ǔ(packGmortJ_boJd$](96HH^#)9H%$-E%=/]A(L_p
 oSHHNheadphMesGJtGtophTHNclappKHNdJtH,8bPl|p[0'8_bPl/,,musXP_notes|<#(:I2runnL_shirt,tQnis,skiZkis
 ,basketbPlG%Ɠ(eRd_[<',snow/9(K~/Ɯ-/**~$++:%-surfL~:ǿ*rse_racL~Gfoo:,*;'.wimmL<+.liftL_w]Ǝ(s:%.golf
 L~GmotorcycSNcrXket_gameNfield_hockeyGXe%$-pL_pMgG;7'-c[[)]è(aO>I-ousesNdeRlXt_[$'%w/;$(NoffXeGpos
 t_/$(?&+Tm|Tm_sign;H2%e*|Rd_papK[f+NcastS?Y(F3;ƹ+:H(<Ȋ+%$*%&)7NbadmO^Ȣ+emoji_modifiK_fUzpTrXk<ţ(__
 1__2|l$D'_skO_tMe]'E3|<ȕ)_/(T4/(*?'O5?'+dJk%(.:$1|<)D6H,m;J'2/Î*w2,tigK2H,rabbU2,cT[%)whP[&*race;e
 (HNew/N+dog2,pig2HHNshellHNbee<#)tS^P2hTched_chXk:%.camel|two-hump_:$(GflippKG<4(GcowG:4(G/4)GcTN/
 4(G>3(NdogGpigGfrogGhamstKGwolfGbeJHNfeetH[W)J~,nose~GlipsH,backhYd_:Ȼ>_2<&8^ǁ+?&*$$(?&<Sft?&*$$(?
 &8?ʍ+[&+%$),facepunch|<#)McomL[ȁ*wave|wav$ǿ-ok[#*+1|thumbsup[#*?6',-1|__;%+>3'^#*[5),clap[Ï)<*+s~,
 opQ$$*NwomY[ȝ'TG?ɴ(esN^Ì(|t>#':E*;'0clothesHNclutch_bagG^%)shoe|;#'>Ô.:$*/ȷ(heel,sYdP?*,:$),boot[$
 ,boo>.+boy~,girl~,mY~,%&(~NcoupS;p*p|polXe?½)K~,dYcKs|peop^ʐ+bunny_eJs,brid$ʙ,il~GblMd-haiRd_pKsM~
 GmY>&(>m'^ǧ)ap>×.weJL_turbY~Gold_m^#-/3*baby~,cMstructiM?Ɂ*~,prOcess~GogRGgoblOH,Ygel|<('_^#(~,PiQ
 HZpace_OvadKGYgry_fac<6*hornsH;2-ti?S-~GguJd~?N+_dYcL~H,nail_caR|]#(<B'sh$F'ssage/*+gettL_$%*~H:%3
 %A'cut~GbJbKHNkissHNgem,>L)]$+NheJtbeT>$1pulseGcupid:a.gift_$&(HN/ʀ*%;)a_dot,bulb%ß*^#'GYgKH,zzz/^
 'm|collisiM,sweT_dropSts|:$-sH,dash|;#'L_awayGhYkey|poopZhU,fSxed_bXeps~|muscS,dizzy>3*100|hundRd%
 ±)sGmMeybag/&*yQ|yQ_bYknote,dollJ|>#)$%-euro|;#'?$-pound|<#(]$,H,chJt|<#(_OcRasL^=)yQ]p(mputK|lapt
 op_;$+N%$+_diskH,cd|optXP>$*%#,dTeGcPQdJN[-3?$,de?$-%#7Nbook?$2:ɷ)HNfaxHZTellUe,loudspeakK,mega|;#
 'phMe[(*e-mail|e__ma:)(Qvelop[o)[Ɋ)G>%'box_closed<$-]#-:'(/)([$3no$%*HNi>.)cPlL|mobiS_phM>-//'*YtQ
 na_bJsZignP_strQgthHHNtvNvh^Ɯ*4FFNshuffS_track;ȱ,RpeT|>#)]$1_Me/%+sLS]%+;0(s/:'ckwise|]#,_vK:Q)/&)
 ]&+:Ǟ(K<'-<$3:')?0,dim^#*|low_br$y'ness,^#(;2+%Ü(?%/mute|;#'d_<O*G]#*_?)'volume,s;j'/%,%Į)<%)$U)_^
 %1:,'[%);U)mag|magnifyL_?ñ(_tilted$Ć)ma/Ą*<&;?%)G::'ed?O)pQ>$2keyH[$,,un[#'|un;$)H,bell]&)slash|no
 _b/ı)lOk>ĝ*|;#'/X*Qd|Qd/$*M|M!%$*soMZoM;$*top|top/$*no_Me_undK_e/4'eQ|:$(age,keycap_10|tQ,capUP_ab
 cd|Oput_lTO$Ͱ)case,;%3?H';%*1234;%*numbKs,/$)symbols|?#*%)'$)0SttKsH,f<;'l:C)HNkUchQ_knife|<#(Ggun
 :ŏ,t>V(ix-poO$$(tJZix_<$/GbegOnKGtridQ/,)Rd_circSGblue/$,H^%,triYgS>*,up|%ǰ)?%/]&8^Į($'6%%(<Ε-^%(|
 upwJds%z0?&(]%*^#'$&0@1F549GomGdoveHHNmQorah%&(50,:z(1|Me_o’%$(?$)2|two?$13|thR>&24|four[$15|fiv>&
 26Zix?$17ZevQ]$18|>_(]$19|ni>13]`)[$21|el>*51>5'elv^(330|Me-thirty;9*30>9'[$0330?9([&1430[9(]$0530
 ]9'[&1630Zix[$0730$:)^$0830%:)^$0930|ni:22103::(]$1130;:(%%3<6)el^0,;Q(6FHH^#(73NmY_O_suU_SvUTL~Gd
 ete:Ͳ(~^i,]ĺ//)(87H[#)AGpQGf%Ǖ*_pQGpaOtbrushGcray/b*90Gha^Į+fLKs_splayed~/&)5GmiddS^%*~GvulcY_sPut
 e?&)A4>6,A8[#*B1?Ę/^Ƥ(:%+CGframed_pXtuR%%(C2H<),D1Nspir?ȅ*pad<$-:Ĝ+^&)CGclampNrolSd__up_newspape>&
 )E1Gdagg;$+3$ê+L_head$%)?4+EF[#*F3[#+A$G+%ʍ)|map_of_%$(GmoaiGgrOnL,beamL^ŧ.]Ε+eyes>&(Gjoy,>'(]&1bi
 <&)ZmiS%&*$*7<&/;&8weT]Ŕ*:&2squOt/'+|laughLZTisfiedGOnocQtG%-+impGwOkGbl$Z'$-(savorL_food|yumGRlie
 ved]Π)<2-]11>%(->%'HZun^ƭ*<-)rkNexpRssiMSssGunamused,downcast/99GpQsiveGcMf?''GcM^m'ded$ſ*L%5)bl%ʞ
 *_$%'<%+^1)^&-[E0$%-?ņ*^$)%0-tMgueZtuck_out<$*,<$3_wOk[**|$$+;)3,$K-]+D$0/Gdisap[î*Gworried$Ʀ+Grag
 eGcryGpKseveR,<B.team_from_nose|triumph,%+/_?P+Za:Ͻ(<$,$3(>Ϟ.GYguishedGfeJfulGweJyHZSepyH]q)macLHZ
 obGopQ_mouthGhu/)(Yxious?R4cold_%S*ZcRamGastM;.,l$)(?-+LNno$,,maskH?s)_cTGjoy_cT>q-ca$_);&)>%(>i._
 cT^i,cT:j6%i-;((>Y,T|$$.^@+poutL]/)]6,:$)Nupside__:m'['*,no_good?Ǉ-sturL_no~,ok:ǟ)?%5ok~,bow>ϐ-wL~
 HZee_no_evilGheJ:$+<Ç+;$,;(*rais[Ǜ,|/$/,/ώ.s:%0s~>(+/W(>ʂ1^:*~,fold?(+~|pra;ø(680HNlocomotiveNbulS
 ttraO_^=',<$)_>$(?%0frMt,$$(2HHHNtr:ʂ/busstop<Ʊ4cJ|Rd_cJH,:Ň)JZport_utilUy_vehXSGtruckH;)4]?+owL_b
 oT~$/+ffX_[Ś*^Ȇ0,/ȗ*cJ]%)|rotTL:$)G;ŋ)ulJ]ʄ(NprohibUed,cigaRtteZmokL;W'^#+lUtK_O_bO/ʒ(|put_$%-Us_p
 l<]'do_no;%+|no]#*L,potabS_wTK,nM->$0|nM__?$0GbikeN?_+ik;S0$ʨ+:%+:W,wPkL~|[#*HH,mQs|me]ȷ'room,wo>$
 (wo[$-HHNwc]-/takL_bTh~^I-:](CB?&.>=(ed/&-;U']>(,shoppL_cJt/((D5$)*E0H[*2E9[#+BNairplYe_JrivP<%(F3
 H,kXk_scootK;)37E0,orYg>Ƃ,yellow/$+gRQ%$+purpl?&,brow;%,Rd[ѷ*/f($$*/+)/$*/++/$)/+*%$)/+*?&*/+);%+$
 2'90DHHNzippK_;Ë)?¹(;ș+[$1HN?Æ0d__bYdageGrobotH,<E'_of_the[ɇ)~,cPl_me$µ)]³+$ƿ(of]$*Sft-fac:ʄ-righ?
 $1H,:Ь(ed?Œ+~,love-you]Å)R~,cowboy_hT]30H^a*^$(pPmL~H,$6-]0*eyeb/Ǌ(tJ-s$¬)zYy%*)shushL/$(<(-?ƿ+_o>
 ò+$>.Yd_ovK:%/vomUL,explod<Ŏ,pRgnYt;ɯ,R^ӝ(eed]s)Pms_up_togethK~,selfie]ɰ+~,^Ÿ*tuxedo~,mrs._claus<y
 ,shruggL>$+$m(wheel]$/jugg<$0fQcL?W(3C,^ʉ+RstlL<&+playL_wTK_polo~;%2$<(bPl>z)drum/p/947,1st%''c%ӂ(
 P,2nd;$03r;$0<(*la?T)H%#1<+05BHH,kiwi_fruUH%#F%œ53_]ҫ)]**73,pJty/T,wooz<V*ho<_*cold]#(>')A,pSadL:b
 *%#Pgiraffe,zebraHHH>9@A5?$5E%Ǯ,/ҵ(curly^#)bPd/Ҭ);$(]<AP>@1mTe,i^7*CD>],tYd;U.kn$])HH,adult~,child
 ~,oldK_[$*beJded_^')~,<l(<³-scJf?Z,O>ő)y<Þ(/g-limbL>&/lotus_posUiM~,m/ʫ(fairy~,vampir/q'K^-+elf~]9
 1$@,^ɯ+H,jigsaw<f)n/H5thRad,yJn;@/oap/H-A70H:$/8%$.80^#,90/+/Iac|ascQsiM_islYdIad|YdorrWae|unUed_J
 ab_emirTesIaf|afghYistYIag|Ytigua_&_bJbudWai^ũ)llWP|PbYVam|JmQVao|YgolWaq|YtJctXWJ|JgQtOWas|amKi[Ǖ
 )moWT|$ϧ(Vau$$)PVaw|JubWax|ålYd:7*sIaz|azKbaijYIba|bosni]3'hKzegovOWbb|bJbadosIbd|bYgladeshIbe|bel
 giumIbf|burkOa_fasoIbg|bulgJVbh|bahraOIbi[&'undiIbj|bQOIblZt._bJthéSmyIbm|bKmudWbn|bruneiIbo|boliv
 Vbq|cJibbeY_nethK:7*br|brazilIbs:.'amasIbt|bhutYIbv|bouvet<P,bw|botswYWby$7'JusIbz$$'izeIca|cYadWc
 f|cQtrP_af>G)RpublXIchZwUzK:+)ci|côte_d’ivoiRIck|cook>G-cl|chiSIcm|camKoMIcn|chOWco|colombVcp|clip
 pKt/c.cr|costa_rXWcu|cubWcv|cape_vKdeIcw|curaçaoIcx|christmas<)-y|cyp^9(de|gKmYyIdg|diego_gJcVdj|d
 jiboutiIdk|dQmJkIdm|domOXWdo%$)<=2dz|PgKVea|ceut%^'mel]m)ec|ecuadorIee|estMVeg|egyptIeh|westK$k'hJ
 WK|KURWesZpaOIet|ethiopVeu|]и)Y_uniMIfi|fO]9)fj|fijiIfk|fPk^n1fm|mXrMesVfo|fJoe^%.r|frYceIga|gabMI
 gb|unUed_kLdomIgd|gR:X)g:C'orgVgf|frQch_guiYWgg|guKnseyIgh|ghYWgi|gibrPtJIgl|gRe[4*gm|gambVgn|guOe
 Wgp|guadeloupeIgq|equToriP_:&,r>)(;4(sZ]Ņ(/1)<H';$)sYdwXh:9-gt|guTemPWgu/$'mIgy|guyYWhm|heJd[N'cdM
 P$B.hn|hMdurasIhr|croTVht|haUiIhu|hungJyIX|cYJy^(-id|Od^G+ie|iR:;)il|israelIim|isl>Қ(mYIO|OdVio|br
 Uish_OdiY_oceY_tKrUo>-(q|iraqIir|irYIis|X/,*U|UPyIje|jK^I(jm|jamaXWjo|jordYIke|kQyWkg|kyrgyzstYIkh
 |cambodVki|kiribTiIkm|comorosIknZt._kUts_&_nevisIkp|north_koRWkrZou;$.w|kuwaUIky|caymY^?-kz|kazakh
 ;/)la|laosIlb|SbYMIlc]-(lucVli|liechtQsteOIlkZri_lYkWlr|libKVls|SsothoIlt|lUhuYVlu|luxembourgIlv|l
 TvVly[('yWma|?9'ccoImc|mMa^#(d|moldovWme|mMtQegroImf;2(mJtOImg|madagascJImh|mJshPl::-mk|macedMVml|
 mPiImn|mMgolVm/C*Kn_mJiYa](.q|%-)iqueImr|maurUYVms>1(sKrTImt|mPtWmu>&*iusImv|mPdivesImw|mPawiImx|m
 exi;9(y^$(ysVmz|mozamb>-)na|namibVnc^Ҕ(cP:6+ne|nigKInf/5'folk;4*Ing>%)Vni|nXJaguWnl|%õ0no<('wayInp
 |nepPInr|nauruInu|ni[/(z?.(zea]+)om|omYIpa|pYamWpe|pKuIp;½,polynesVpg|papua_new>µ,ph|philippOesIpk
 |paki/c)pl|po$-)pm]Q(piKR_&_m;='lMIpn|pUcair]i.pr|puKto_rXoIps|paSstOi[§.i;-(t|portugPIpw|pPauIpy|
 p$?)yIqa|qTJIR|ré$ß*ro|romYVrsZKbVru|russVrw|rwYdWsaZaudi_JabVsbZolomo?3.scZeychelSsIsdZudYIseZwed
 QIsgZLapoRIsh<<(helQWsiZlovQVsjZvPb>Í)ja>g'yQIsk;&(akVslZiKra_SMeIsmZa>k(OoIsnZQegPIsoZomPVsrZurOa
 meIs$Þ+^2+tZão_tomé_&_príncipeIsv|el_sPv$ą)sxZOt_maJtQIsyZyrVszZwazi>Q)ta|tr?S(_da_cunhWtc|turks_&
 _caXos^@-td|chadIt/_,>1(K;Q2tg|togoIth|tha$-+j|taji$_+tk|toke[S(tm>-(mQ>%+n|tunisVto|tMgWtt|trOida
 >E'toba%,(v|tuvPuItw|taiwYItz|tYzYVua|ukraOeIug|ugYdWum|u.s._outlyL:8-us%đ+stTesIuy|uru<c)uz|uzbe:
 5+va|vTXY_cUyIvc;W(vOcQt_&_:Ė)[v)ve|vQezuelWvg[ô,virgi:c.vi:1(%%5n|vietnamIvu|vYuTuIwf|wPli/K'futu
 nWws|$Ź*xk|kosovoIye|yemQIyt|mayotteIzaZou$ԣ+Wzm|zambVzw|zimbabwe,!#⃣|keycap?Ͳ*:ȵ)!#️%%,#,!*%$,ast
 Kisk,!*$&-*,!0%$,digU_zKo,!0/&-0|?$)1?&2Me,!1>&-1|>$(2<&2two,!2<&-2|>$(3<&3hRe,!3?&-3|[$*4]&2four,
 !4️⃣|]#'<%+4,!5?&3ive,!5?&'ive<%+5,!6?&2six,!6%.-6|>$(7<&3evQ,!7?&-7|[$*8]&1]Π),!8️⃣|^#(?%+8,!9]&2
 ni/?'9?*-9|?$)⛹️‍♀️;ж*bouncL_bPl~<%(♂️|:%7🇨🇨|cocos_(keelL)[b+[ԃ(;ժ(^%)^d,!🇨🇩|cMgo_-_kOshasa$'-:%)_
 _;%,,!🇨🇬:',brazzavilS>'5?%/,!🇨🇿|czechi;+.<$(/Ƃ-!🇬🇼<%,<ó*__bissau|:$)-/$),!🇭🇰[&-hMg_kMg|]#,_sJ_]Ɯ)!
 🇯🇵]&-japY,!🇲🇲?$-myYmJ|?#*_(burma),!🇲🇴:&.acau|<#(/+/🇹🇱%&-timor__Sste|%$(-$$(,!🇹🇷;&.urkey,!🇺🇳%Ƃ+nTiM
 s,!🏃$P+:Ԏ-]$';O'?$0🏄>&+>ԏ)]$*>&'?$1🏊>&+[Ԏ*^$*?&'[$2🏋/[,^Ԑ4?%';[(<%9🏌/(,]ԓ,^$'<'([$1🏳️‍🌈|raObow>Ӿ)!
 🏴‍☠️|pirTe>$+󠁧󠁢󠁥󠁮󠁧󠁿|QglYd<$(󠁳󠁣󠁴󠁿Zcot>$,󠁷󠁬󠁳󠁿|waSs,!🐕‍🦺ZKvXe_dog,!👁️‍🗨️|eye_O_spe:Z'bubbS,!👨‍⚕?0)heP
 th$ґ+/%'⚖/%)judge<$(✈<$)pilot<$(❤️‍👨/ҧ)>ʓ,Jt_mY_mY$&*💋‍👨/҂($%/🌾>)(fJm[,*🍳<$(cook:$(🎓/G)tudQ?,)🎤>$)
 L<'*🎨<$(Jtis$&)🏫<$(teach%&*🏭/,*ctory[6/👦|family_:«)y[$(^$4:%+👧%%/girl]$(/''$%1:',<'5^',/.1>./[.3%/
 3:/1?/0]/3/04;03[05👩](1wo;.*<%*?%:$&,<+']%2/+-:1'[%9[(.^(3?14💻<N*chnolog>P+💼|mY[ӟ*]N/🔧|$8(echYX?$(
 🔬>W)ciQ:V,🚀]W)strMau[$)🚒<V)iRfight:**🦯<ӡ-probL_cY[o(🦰|R]ӥ+$g+🦱|%ʁ(^$2🦲|bP/$,🦳;՜)/&2🦼<ϩ+<յ(ized_whe
 elc<&'^%'🦽^%,YuP?%0👩>¢'wo[¢5;%'⚖;%'^¢,?$'^¢'wo%£,?$'%£:>G*mY/&*👩/&<wo;&)[¦/;%*/%/👩/%(?'3🌾$0*fJm>3*
 🍳|wo[©+<$(🎓|wo^©-<3)🎤[$+L$(*🎨?$*Jtis;&)🏫?$*teach<&*🏭:-,ctory?>->k-/k/$k/?j3<j-%j0^i(/%5?',]'7:(,%/
 3?/1]/5;05>03%12:15]16$25>27💻|wo]x0%E+💼|wo$y-/C/🔧|wo/y/]$(🔬|wo;y,;K,🚀|wo>y/^$)🚒|wo[y0$+*🦯|wo^y8>%'
 ^y/[],%z+%%3:z);$-<z+>&4🦼|wo]z3%x2🦽|wo$¡=👮;ĉ->Ր2<%'^ĉ':%7👯]'*Q?Ւ3<%']'':%7👱]''blM^:1~:%'♂:%2%%)👳:1
 +$Ք1<%)?'':%8👷]'-[Ք6^%':('[%=💁[(+:Տ1:%'%('%%6💂<'-guJ?$(]&'<$/💆/&+]Տ4>%'%'';%9💇$(+>Ւ4>%'$(';%9🕵>Ĵ.[
 ѯ,%%(?''^$3🙅$'+%Ϟ1:%'/''%%6🙆<'7ok:%'<''%%6🙇:ſ/wL[$'^&'>$0🙋;&+/Ϡ1:%'^&'%%6🙍<'+%ϟ-^$'%''[$2🙎%h/ut]$*
 ?&'?$1🚣>&+:Ϗ0/%'^&'$%5🚴[6.ikL[$']&'>$0🚵;&+/μ,>%//'';%9🚶:j.P]$+:''?$1🤦^:.acepPm/%*^&'$%5🤷:'+>ͱ+$%*%
 '']$3🤸^&+^ͳ.:%*/''%%6🤹<'+>Ͷ)^$+%''[$2🤼[&*Q]Ͷ-^$'[&'[$1🤽>*+?Ͷ-wTK_polo~]%'?''?%;🤾>(+:ͼ5?%';('<%:🧑‍🤝
 ‍🧑|peopS_hold]%+s,!🧖[*-O$є)y^Ϡ(~<%'>*':%7🧗<A.limbL^$':''[$2🧘?+0lotus_posUiM[%'>''>%;🧙][.age>$'/'';
 $.🧚/V/iry?$'%&'<$/🧛/&-vampiR]$';&'?$1🧜>&'mKmaid:$'$&(K[Ð)🧝/)-elf<$'[%':$-🧞]%-gQie>$'^%';$-🧟$&-zomb
 ?$(%&'<$-"

def indicator (letter : Char) : Char := Char.ofNat (0x1F1E6 + letter.toNat - 'a'.toNat)

/-- The emoji of some entries with their names; `code` is the code point of the next emoji that is not
spelled. -/
def pictures (code : Nat) : List String → List (String × List String)
  | [] => []
  | entry :: rest =>
    match Text.words entry with
    | [] => pictures code rest
    | first :: names =>
      match first.toList with
      | '@' :: digits => pictures (Text.hexValue (String.ofList digits)) rest
      | '!' :: emoji => (String.ofList emoji, names) :: pictures code rest
      | '*' :: letters =>
        let flag := String.ofList (letters.map indicator)
        (flag, names.flatMap fun name => [name, "flag_for_" ++ name]) :: pictures code rest
      | _ => (String.singleton (Char.ofNat code), first :: names) :: pictures (code + 1) rest

def listed : List (String × List String) := pictures 0 (Text.entriesOf dictionary table)

/-- Skin tones, with the characters that give them to emoji. -/
def tones : List (String × Char) := [("light", '🏻'), ("medium-light", '🏼'),
  ("medium", '🏽'), ("medium-dark", '🏾'), ("dark", '🏿')]

/-- An emoji in a skin tone, which follows the first character in the place of a selector. -/
def toned (tone : Char) : List Char → List Char
  | first :: '\ufe0f' :: rest => first :: tone :: rest
  | first :: rest => first :: tone :: rest
  | [] => []

/-- A name with its emoji, in all the skin tones that it has. -/
def inTones (emoji name : String) : List (String × String) :=
  let plain := String.ofList (name.toList.filter (· ≠ '~'))
  let variants := if name.toList.contains '~' then tones else []
  (plain, emoji) :: variants.map fun (tone, c) =>
    (plain ++ "_" ++ tone ++ "_skin_tone", String.ofList (toned c emoji.toList))

def named : List (String × String) :=
  listed.flatMap fun (emoji, names) => (names.filter (· ≠ "=")).flatMap (inTones emoji)

/-- The emoji that is listed under the name of its character. -/
def ofCharName? (name : String) : Option String := do
  let code ← Text.CharName.code? (name.toList.map fun c => if c = '_' then ' ' else c)
  let emoji := String.singleton (Char.ofNat code)
  if listed.any fun (e, names) => e = emoji && names.contains "=" then some emoji else none

def ofName? (name : String) : Option String := (named.lookup name).or (ofCharName? name)

end Wirework.Emoji
