/-!
Shortened names of the characters from U+10000 to U+1CFFF: scripts of the past, and some of small
communities.
-/

namespace Monomorph.Text.CharacterName

/-- Runs of these characters: the first one, and the text of their shortened names in pieces. -/
def ancientRuns : List (Nat × List String) := [
  (0x10000, ["ķAR BƝB008 Ai38 Ei28 Ii61 Oi10 Ui01 DAi45 DEi07 DIi14 DOi51 DUj7 JAi46 JE"]),
  (0x1000d, [
    "ķAR BƝB036 JOi65 JUi77 KAi44 KEi67 KIi70 KOi81 KUj0 =i13 MEi73 MIi15 MOi23 MUi06 NAi24 NEi",
    "30 NIi52 NOj5 NUi03 PAi72 PEi39 PIi11 POi50 PUi16 QAi78 QEi21 QIi32 QO"]),
  (0x10028, [
    "ķAR BƝB060 RAi27 REi53 RIi02 ROi26 RUi31,Ai09õi41Ľi12,Oi58,Uj9 *i04 TEi37 TIi05 TOi69 TUi5",
    "4 WAi75 WEi40 WIj2 WO"]),
  (0x1003c, ["ķAR BƝB017 ZAi74 ZE"]),
  (0x1003f, [
    "ķAR BƝB020 ZOj5 A2i43 A3i85 AUi71 DWEi90 DWOi48 NWAi29 PU2i62 PTEi76 RA2i33 RA3i68 RO2j6 *",
    "2i87 TWEi91 Č"]),
  (0x10050, ["ķAR BŢB018j9i22i34i47j9i56i63j4i79i82j3j6j9"]),
  (0x10080, [
    "ķAR B IDEOGRAM B100 M$s2 WOM$s4 DE_s5ȉIDtF =REtMřÜŖs6F EWEtM RAMs7FŪ-GO>tM HE-GO>s8F,OWtM ",
    "BOARs9F COWtM BULLr20 WHE>s1Ď<Ys2 OLIVEs3,PICEs5 CYĢUSgMONOGRAM B127 KAPOs8 K$AKOgIDEOGRAM",
    " B130 OILs1 W%Es2gMONOGRAM B133 AREPAs5 M_IgIDEOGRAM B140 BRONZEs1 GOLDs2s5 WOOLs6r50s1 ĞN",
    "s2s3s4gMONOGRAM B156 TURO2gIDEOGRAM B157s8s9 CLOTHr60s1s2 GARMâs3 ARMOURs4s5s6s7s8s9r70s1s",
    "2s3 MONTHs4s6 TREEs7s8s9r80s1s2s3s4s5s9r90s1 HELMETq220 FOOTSTOOLs5 B>HTUBr30,PEARs1 Ås2s3",
    ",WORDs4s6r40 WHEELÀÔRIOTs1 ÔRIOTs2 ÔRIOT FRAMEs3 WHEELs5s6gMONOGRAM B247 DIPTEgIDEOGRAM B2",
    "48s9r51s2s3s4 DARTs5s6s7s8s9pVESSEL B155x200z1z2z3z4z5z6z7z8z9y10z1z2z3z4z5z6z7z8z9y21z2z6",
    "z7z8z9y50x305"]),
  (0x10100, ["AEGEÓWORDõĚ>OR ķpöfëCKÏ"]),
  (0x10107, [
    "AEGEÓNĩÍhČhƋhƀhǑgǿgƿğgĩĈhŶgƿųgĩǝhŹTYhĝTYhFIFTYgǿTYgƿğTYgĩĈYhŶTYhÙçhæçhÿçhŭçhťçgǿ çgƿğ çgĩE",
    "ĸçhNǴçhÙúhæúhÿúhŭúhťúgǿ úgƿğ úgĩEĸúhNǴúgƿų úgĩǝ úhŹĦúhĝĦúhFIFĦúgǿĦúgƿğĦúgĩĈY úhŶĦú"]),
  (0x10137, [
    "AEGEÓWEĸBAS^UNITiFIRSTƒUNITgĈõCONDƒUNITgEĸŹDƒUNITiƀTHƒUNITfDRY MEASƹFIRSTƒUNITfLIQUID MEAS",
    "ƹFIRSTƒUNITfMEASƹSECONDƒUNITkŹDƒUNITaǫ ACROPHONÕ>TÕÙŕÛpȄpDRACH=oǑoFIFTYoťçpúoFIFĦúoťT.âSmň",
    "ų T.âSmTÕFIFĦT.âSoÙç T.âSoťç T.âSoÙú T.âSoťú T.âSoǑřǛSmňųřǛSmTÕFIFTYřǛSoÙçřǛSoťçřǛSoÙúřǛSm",
    "ňų úřǛSmTÕFIFĦúřǛSmňų MNASlH_AEUM ÙP<THRONlTHESPIÓÍlH_MŖIÓÍlEPIDAUREÓČlTHESPIÓČlCYR+AÕæDRA",
    "CH=SlEPIDAUREÓæDRACH=SlTROEZ+IÓǑs$ųu Ǭ^ƚlH_MŖI$ųlMESS+I$ųlTHESPI$ųrÓŹTYmROEZ+IÓFIFTYwĦǬ^ƚl",
    "H_MŖIÓFIFTYlTHESPIÓFIFTYsÙçsÿçlEPIDAUREÓťçlTROEZ+IÓťçmHESPIÓťçlCARYSTIÓťçlNAXIÓťçlTHESPIÓÙ",
    "úsťúlDELPHÕťMNASkICřR>IÓFIFĦMNAScÙȄÂeÊǬ^ƚcæŹDƪcÿŕÛƪcYEARÂcT.âÂcDRACH=ÂcOBOLÂcæOBOLƪcÿOBOLƪ",
    "cŭOBOLƪcťOBOLƪcMETRETEƪcKY>HOS BASEÂcLITRAÂcĊKIAÂcXESTEƪcAR*BEÂeOURAÂcGRAM=ÂcTRYBLIÖBASEÂc",
    "Z_OÂcÙŕÛÂb,%USOIDÂb %DIŜÂaNOMIS=Â"]),
  (0x10190, [
    "ROM$õXT$ƪdÓUNCIAÂd$õMUNCIAÂfXTU~ÂdÓDIMIDIAõXTU~Âd$ĽLIQUAÂdÓD+ARIUƪeQU%ARIUƪd$õSÛTIUƪdÓDUPO",
    "NDIUƪeAƪeñURI.ÂaASCIAÒ"]),
  (0x101a0, ["ǫŢ*U RHO"]),
  (0x101d0, [
    "ąISTOS DISCÊPEDESTRI$nLUMÀHEADmT>TOOÀHEADlǔAPTIVEmHILDlÊWOM$mHELMETmGAUNT<TmTIARAmÅmBOWlÂ,",
    "HIELDlǔLUBlÊM$AC<SměTOCKlÂ,AWlÊLIDmBOOM_ÎlǔARPâRY ƆElÊDOLIUMlÂǋBm,LÉlǔOLUMNlÊBEEHIVElÂ,HIP",
    "lÊĞNmHIDEmBULLS <Glǔ>lÊRAMmEAG<mDOVEmTUNNYmBEEmƆ^TREEmV%EmPAPYRUSmROSETTEmLILYmOX BŀmFLUTE",
    "mGRǛlÂřRA%_mßAXElÊWAVY BälÂǋīÁOBLIQUEȆ"]),
  (0x10280, ["LYCI$Çf:EgBhHgGgDgIgWgZgTHgJgKgQgLgMgNgMMgNNgUgPgKKgRfËf:ThTg$g+gHgX"]),
  (0x102a0, [
    "CARI$Çf:P2gDgLgUUUgRgLDfÇ2f:QgBgMgOgD2gTfËHh2gf:C-18gUgNNgXgNgTT2gPfËSf:IgEgUUUUgKh2gNDgUU",
    "gGh2fËTh2f:NGgIIgC-39gTTgUUU2gRRgMBi2i3i4gLD2gE2gUUU3"]),
  (0x102e0, [
    "COPTÕEPACT úSÏlįlĤlĥlĴlŁlľlŉlŊlŋlNƿųmĩǝnŹTYnĝTYnFIFTYmǿTYmƿğTYmĩĈYnŶTYnÙçnæçnÿçnŭçnťçmǿ çm",
    "ƿğ çmĩEĸçnNǴç"]),
  (0x10300, [
    "ıIT.ICÇg:BEhKEhDEhEhVEhZEhHEhTHEhIhKAhELiMh+hESHhOhPEeÕƤHEeIC:KUh_hEShTEhUhEKShPHEhKHEhEFh",
    "_ShëhIIhUUhESSeÕNUM_ÆÍkǑj.ųjÆFIFTY"]),
  (0x1032d, [
    "ıIT.IC:YEhNORTH_N TSEeÕƤOUTH_N TSEaGOTHICÇHSAg:BAIRK$hGIBAhDAGSgÇIHVUSg:QAIRTHRAhIUJAh!GLh",
    "THIUTHhEIShKUS=h~GUShM$NAhNAUTHShJ_hURUShPAIRTHRAhŶTYhRAIDAeÕƤAUILeIC:TEIWShW%JAhFAIHUhIGG",
    "WShHWAIRhOTH.hNǴç"]),
  (0x10350, [
    "ıĢMIC:$gBURgGAIgDOIgEgZHOIgDZHOIgZA*gDZI*gIgKOKEg<IgM+OEgN+OEgVOOIgPEEIgREIdÕƤIIdIC:*IgUgC",
    "H_YdÕƤHOOIgCHOOIdIC:YRYh_UgOhOgEFg!gTSIUgŵgY_iIh>gIEgYUhAgIAađīÁıĢMIC:$jDOIjZA*jN+OEgÕƤII"]),
  (0x10380, [
    "UGARIň:.PAhBE*hGAM~hÚhDEL*hHOhWOhZE*hHO*hTEThYODhKAFgËH%g:óDAhMEMhDH.hNUNhZUgËAMKAgÇ%g:PUg",
    "ËADEg:QOPAhRAS!hTH$NAhŠ%hTOhIhUgËSU"]),
  (0x1039f, [
    "UGARITÕWORD DIVID_aıĢSI$ÊAgIgUgKAhUgGAhUgXAfǔAfÊJAhIg*gTUgDAhIhUgċgPAgBAgFAgNAhUg=gMIhUgYA",
    "gVAhIgRAhUg~fÂ,AfÊZAfÂĄg,SAfÊ!"]),
  (0x103c8, ["ıĢSI$ÊAURA=ZDAAp-2p!gXS!AY>HIYAgDAHYAAUSHp-2gBAGAhUUMĆeÓWORD DIVID_fNĩÍhČgƿųgĩǝhç"]),
  (0x10400, [
    "DES_ET|ƇIiEiAjHiOjOgŷǣIiEiAjHiOjOgƌYg|OWhWUhYEEhHhPEEhBEEhTEEhDEEhëEhJEEhKAYhGAYhEFhVEEhET",
    "HhTHEEhEShZEEhESHhZHEEh_hELiMh+iGhOIhEWg;ƇIiEiAjHiOjOgŎǣIiEiAjHiOjOgƂYg;OWhWUhYEEhHhPEEhBE",
    "EhTEEhDEEhëEhJEEhKAYhGAYhEFhVEEhETHhTHEEhEShZEEhESHhZHEEh_hELiMh+iGhOIhEWaS!VI$:PEEPgTOTgK",
    "ICKgFEEgTHIGHfËOgUREf:CHURCHgYEAgHŃgBIBgDEADgGAGgVOWgTHEYgZOOgMEASUREgJUDGEgWOEg!-!gLOLLgM",
    "IMEgIFgEGGfÇSHgDOf:ONgWOOLgOUTfÇHf:ROARgNUNgE>fÇGEf:ICEgUPgOAKhOZEhILfÇWEgREf:ORfÇIRf:_RfÇ",
    "RRAYf:EARgI$gYEWaOS=İ:ĖFfBAf*fJAfXAfÚfDEELfRAeËAfHI%e:D!fCAYNfGAfFAfQAAFfKAAFf~$fMI%fNUUNf",
    "WAWf!fYAeÇe:EfIfOfUeÇAe:EEfOO"]),
  (0x104a0, ["OS=İ ŦfįfĤfĥfĴfŁfľfŉfŊfŋ"]),
  (0x104b0, [
    "OSAGEƌgIg%gHf|BRAgÔgEHÔhh%g!gHYAgIgKAgEHKAgKYAg~g=gNAgOh%gPAgEHPAfŷAg!f|*gEH*gTSAgEHTSAgTS",
    "!gD!gUgWAgÚgŠgZAh!"]),
  (0x104d8, [
    "OSAGEƂgIg%gHf;BRAgÔgEHÔhh%g!gHYAgIgKAgEHKAgKYAg~g=gNAgOh%gPAgEHPAfŎAg!f;*gEH*gTSAgEHTSAgTS",
    "!gD!gUgWAgÚgŠgZAh!"]),
  (0x10500, [
    "ELBAS$Çg:BEhCEhëhDEhNDEhDHEhEIihFEhGEiJEhHEhIhJEhKEh<hL<hMEhNEiAiJEhOhPEhQEhREiREgËEhHEg:T",
    "EiHEhUhVEhXEhYhZEiHEhGHEhŠM=hKHE"]),
  (0x10530, [
    "CAUCASIÓ.B$I$:.ToBEToGIMoD>oEBoZARLoEYNoZHILo*SoÔoYOWDoZ!oIRBnË!n:L$oIİoXEYNoDY$oCARoJHOXo",
    "KARoLYIToHEYToQAYnÇORn:CHOYqIpYAYo=QoQARoNOWCoDZYAYnË!Kn:JAYNoONoTYAYoFAMoDZAYoCH>oP+oGHEY",
    "SoR>nËEYKn:VEYZoTIWRnËHOYn:IWNoCYAWpAYNoYAYDoPIWRoKIW"]),
  (0x1056f, ["CAUCASIÓ.B$IÓCITŗaVITHKUQIƌi|BBEkEjCEjëjDEkHEjEIkjFEjGA"]),
  (0x1057c, ["VITHKUQI|!jH!jIkJEjJEjKAj~jĪjMEjNEkJEjOjPEjQAjRE"]),
  (0x1058c, ["VITHKUQIŷEjHEi|TEkHEjUjVEjXE"]),
  (0x10594, ["VITHKUQI|YjZE"]),
  (0x10597, ["VITHKUQIƂi;BBEkEjCEjëjDEkHEjEIkjFEjGA"]),
  (0x105a3, ["VITHKUQI;!jH!jIkJEjJEjKAj~jĪjMEjNEkJEjOjPEjQAjRE"]),
  (0x105b3, ["VITHKUQIŎEjHEi;TEkHEjUjVEjXE"]),
  (0x105bb, ["VITHKUQI;YjZE"]),
  (0x10600, [
    "ķAR AÊAB001k2k3k4k5k6k7k8k9j10k1k3k6k7j20k1lFlMk2lFlMk3lMk4k6k7k8h028BhB029j30k1k4k7k8k9j4",
    "0k1k4k5k6k7k8k9j50k1k3k4k5k6k7k8k9j60k1k5k6k7k9j70k3k4k6k7k8k9j80k1k2k5k6k7h100-102hB118j2",
    "0h120BhB122k3j31AlBh131ChB164j71j80k8j91h301j2j3j4j5j6j7j8j9AkBkCi10j1j2j3AkBkCj4j5j6j7j8j",
    "9i20j1j2j3j4j5j6j7j8j9i30j1j2j3j4j5j6j7j8j9i40j1j2j3j4j5j6j7j8j9i50j1j2j3j4j5j6j7j8j9i60j1",
    "j2j3j4j5j6j7j8j9i70j1h400-VASj1-VASj2-VASj3-VASj4-VASj5-VASj6-VASj7-VASj8-VASj9-VASi10-VAS",
    "j1-VASj2-VASj3-VASj4-VASj5-VASj6-VASj7-VASj8-VASh501j2j3j4j5j6j8j9i10j1j2j3j5j6i20j1j3j4j5",
    "j6j7j8j9i30j1j2j4j5j6j7j8j9i40j1j2j5j7j8j9i50j1j2j3j4j5j6j7j9i63j4j5j6j8j9i70j1j2j3j4j5j6j",
    "7j8j9i80j1j2j3j4j5j6j7j8j9i91j2j4j5j6j8h600j1j2j3j4j6j8j9i10j1j2j3j4j5j6j7j8j9i20j1j2j3j4j",
    "6j7j8j9i34j7j8i40j2j3j4j5j6j8j9i51j2j3j4j5j6j7j8j9i60j1j2j3j4"]),
  (0x10740, [
    "ķAR AÊA701 Aj2 Bj3 Dj4 Ej5 Fj6 Hj7 Jj8 Kj9 Lk-2 L2l3 L3l4 L4l6 L6i10 Wj1 Xj2 Yj3 OMEGAj4 A",
    "BBj5 BBj7 DDi26 EYYYi32 JE"]),
  (0x10760, ["ķAR AÊA800j1j2j3j4j5j6j7"]),
  (0x10780, ["MODIFIþūŤAAg_ËǱSǚȒƉCǤlāȒƉCǤgþūAEiŤBiBś"]),
  (0x10787, [
    "MODIFIþūDZ DIGRčq&ȁrƶjEZH DIGRčiƱŅiDśkÐŅiŰEiCLOSÀŰġ EiF+G DIGRčiRAMS ĞNiŤGiGśiŤGśiH ĐiŤHiH",
    "+Gśiö<ưJ ĐÐăiLS DIGRčjZ DIGRčiǍBELTiŤǍBELTiǍȁÐBELTi<ZHkÞȁiŏYk&BELTiO ĐiŤOEiCLOSÀOMEGAiQiŏR",
    "&Ƈ<GoÐȁiR&ŅkFĆăiŤRiTC DIGRč&ƶjS DIGRčq&ȁjESH DIGRčiǨȁiV&Äă"]),
  (0x107b2, [
    "MODIFIþūŤYg_:GLOTTȍń ĐiŰGLOTTȍń ĐiBI~BIÆCLICKiDâÆCLICKiLǛÆCLICKi.VEO~R CLICKiRETROF<X CLIC",
    "K&ȁgþūS&ƶ"]),
  (0x10800, ["CYPRIOTƝAiEiIiOiUiJA"]),
  (0x10808, ["CYPRIOTƝJO"]),
  (0x1080a, [
    "CYPRIOTƝKAjEjIjOjUi~i<iLIjOjUi=iMEjIjOjUiNAjEjIjOjUiPAjEjIjOjUiRAjEjIjOjUiSAjEjIjOjUi*iTEj",
    "IjOjUiWAjEjIjO"]),
  (0x10837, ["CYPRIOTƝXAjE"]),
  (0x1083c, ["CYPRIOTƝZA"]),
  (0x1083f, [
    "CYPRIOTƝZOaIMĢIÆARA=IC:ĖPHmBETHmGIMELmDĖTHmHEmWAWmZAY%mHETHmTETHmYODHmKčmóEDHmMEMmNUNjÕƤAM",
    "EKHjICÇY%l:PEjÕƤADHEjIC:QOPHmRESHjÕƤH%jIC:*W"]),
  (0x10857, [
    "IMĢIÆARA=ICõŜÂjÕNĩÍmČmƋlƿųlĩǝmÙçnúlƿų úaP.MYR+E:ĖPHiBETHiGIMELiDĖTHiHEiWAWiZAY%iHETHiTETHi",
    "YODHiKčióEDHiMEMiƻNUNiNUNg^ƤAMEKHgEÇY%h:PEg^ƤADHEgE:QOPHiRESHg^ƤH%gE:*Wg^Ǣ÷F<URONhǶ÷F<URON",
    "hNĩÍjČjƋjƀjǑiƿųiĩǝaNABA*E$:ƻĖPHiĖPHiƻBETHiBETHiGIMELiDĖTHiƻHEiHEiWAWiZAY%iHETHiTETHiƻYODHi",
    "YODHiƻKčiKčiƻóEDHióEDHiƻMEMiMEMiƻNUNiNUNhËAMEKHhÇY%h:PEhËADHEh:QOPHiRESHiƻSH%hËH%h:*W"]),
  (0x108a7, ["NABA*EÓNĩÍjČjƋjƀhCRUCIƚ NĩƀhNĩǑiƿųiĩǝjÙç"]),
  (0x108e0, [
    "H>R$:ĖPHfBETHfGIMELfDĖTH-RESHfHEfWAWfZAYNfHETHfTETHfYODHfKčfóEDHfMEMfNUNeËAMEKHeÇYNe:PEeËA",
    "DHEe:QOPH"]),
  (0x108f4, ["H>R$ËH%e:*W"]),
  (0x108fb, [
    "H>RÓNĩÍgǑfƿųfĩǝgÙçaPHO+ICI$:.FjBETjGAMLjDELTjHEjWAUjZAIjHETjTETjYODjKAFjóDjMEMjNUNiËEMKiÇ%",
    "i:PEiËADEi:QOFjROSHiËH%i:*UhÓNĩÍjƿųjĩǝkÙçkČkƋ"]),
  (0x1091f, ["PHO+ICIÓWORDõĚ>ORaLYDI$Çf:BgGgDgEgVgIgYgKgLgMgNgOgRfËSf:TgUgFgQfËf:TTg$g+gLYgNNgC"]),
  (0x1093f, ["LYDIÓȒU~RÏ"]),
  (0x10980, [
    "M_OITÕHI_OGLYPHICÇr:EsIsOsYAsWAsBAu-2sPAs=sNAu-2tEu-2sRAu-2s~sÚsH!pÕƤAs-2rEpIC:KAsQAs*t-2s",
    "TEu-2tOsDArŢVIDJw-2gCURSIVEÇn:EoIoOoYAoWAoBAoPAo=oNApEoRAo~oÚoH!lŲƤAlVEÇRÔIC,AlŲƤElVE:KAoQ",
    "Ao*oTEpOoDA"]),
  (0x109bc, [
    "M_OITÕCURSIŲFRAŜ E<V+ TWELFTHSrÙȄmLOGOGRAM RMTvIMNmNĩÍoČoƋoƀoǑnǿnƿğnĩĈoŶnƿųnĩǝoŹTYoĝTYoFIF",
    "TYnǿTYnƿğTY"]),
  (0x109d2, [
    "M_OITÕCURSIŲNĩÙçoæçoÿçoŭçoťçnǿ çnƿğ çnĩEĸçoNǴçoÙúoæúoÿúoŭúoťúnǿ únƿğ únĩEĸúoNǴúnƿų únĩǝ úo",
    "ŹĦúoĝĦúoFIFĦúnǿĦúnƿğĦúnĩĈY úoŶĦúoÙç úoæç úoÿç úoŭç úoťç únǿ ç únƿğ ç únĩEĸç úoNǴç úmFRAŜ Ù",
    "TWELFTHræTWELFTHSrÿTWELFTHSrŭTWELFTHSrťTWELFTHSqż TWELFTHSqğ TWELFTHSq EĸTWELFTHSrNǴTWELFT",
    "HSqų TWELFTHSaÚROSHTHIÇiûIjUjǎ"]),
  (0x10a05, ["ÚROSHTHIûEjO"]),
  (0x10a0c, ["ÚROSHTHI VOWEL L+GTHÏiÊÈǀĬjǌjȂhýKAiÚiGAiŠ"]),
  (0x10a15, ["ÚROSHTHýCAiÔiJA"]),
  (0x10a19, [
    "ÚROSHTHýİiƅiǜiŔiǉiNNAi*iċiDAj!iNAiPAiąiBAj!i=iYAiRAi~iVAhIË!jSAjAhýZAi!iKKAiTǜjƅiV!"]),
  (0x10a38, ["ÚROSHTHIÂĎãiǔAUDAiÊȎ"]),
  (0x10a3f, ["ÚROSHTHI ǽjįjĤjĥjĴjNƿųkĩǝlÙçmújFRAŜ ÙȄ"]),
  (0x10a50, ["ÚROSHTHI PǷ ölœȈlȈl CRESñĎm=ĔómLOTUSmDäAmÈDäAmķS"]),
  (0x10a60, [
    "ıSǆARABI$:HEkóEDHkHETHkMEMkQOPHkWAWjËH%j:RESHkBETHk*WjË>j:KčkNUNkKHETHjËADHElMEKHj:FEkĖFjÇ",
    "YNj:D!DHEkGIMELkDĖTHkŠYNkTETHkZAYNkD!<THkYODHkċWkTHETHiÓNĩÍlFIFTYkUM_Õ%DIC>ORbǖARABI$:HEHj",
    "ój!HjMEEMjQAFjWAWjES-2jREHjBEHjTEHjES-1jKAFjNOONjÚHiËADi:ES-3jFEHjĖFiÇ%i:DADjGEEMjD.jŠ%j*H",
    "jZA%jTH.jYEHjTHEHjZAHhÓNĩÍjƿųjĩǝ"]),
  (0x10ac0, [
    "M$IÔE$:ĖPHhBETHiHETHhGIMELiHIMELhDĖTHhHEhWAWgÊUDg:ZAY%i!Y%hJAY%i!Y%hHETHhTETHhYODHhKčhXčhK",
    "HčhóEDHhD!MEDHhċMEDHhMEMhNUNgËAMEKHgÇY%hAY%g:PEhFEgËADHEg:QOPHhXOPHhQHOPHhRESHgËH%hSH%g:*W",
    "fÓABBREVIŗãoĬ"]),
  (0x10aeb, ["M$IÔEÓNĩÍiǑhƿųhĩǝiÙçgPǷƙi F<URONjÈƲƴşöjƲƴşöjöjæöSjǒFILL_"]),
  (0x10b00, [
    "AVEST$ÇhAhOhAOg:$gÇ$hEiEg:EiEhOiOhIiIhUiUhKEhXEiYEiVEhGEiGEiHEhCEhJEhTEiHEhDEiHEhTTEhPEhFE",
    "hBEiHEhNGEjYEjVEiEiYEiNEhMEhHMEhYYEiEhVEhREh<gËEg:ZEgËHEg:ZHEgËHYEhSHEg:HE"]),
  (0x10b39, [
    "AVESTÓABBREVIŗaT%Y æǅȐÙƲPǷaSMÜ æǅȐÙƲPǷaŚ æǅȐÙƲPǷcÙƲȐæǅPǷcæǀSĲÙŻPǷcÙŻȐæǀS PǷa%SCRIPĳÆĚTHI$:",
    "ĖPHoBETHoGIMELoDĖTHoHEoWAWoZAY%oHETHoTETHoYODHoKčoóEDHoMEMoNUNnËAMEKHnÇY%n:PEnËADHEn:QOPHo",
    "RESHnËH%n:*W"]),
  (0x10b58, [
    "%SCRIPĳÆĚTHIÓNĩÍpČpƋpƀoƿųoĩǝpÙçqúiPAH~VýĖPHoBETHoGIMELoDĖTHoHEoWAW-AY%-RESHoZAY%oHETHoTETH",
    "oYODHoKčoóEDHoMEM-QOPHoNUNnIËAMEKHnýPEnIËADHEpH%ný*W"]),
  (0x10b78, [
    "%SCRIPĳÆPAH~VI NĩÍrČrƋrƀqƿųqĩǝrÙçsúaPS.ơPAH~VýĖPHkBETHkGIMELkDĖTHkHEkWAW-AY%-RESHkZAY%kHET",
    "HkYODHkKčkóEDHkMEM-QOPHkNUNjIËAMEKHjýPEjIËADHElH%jý*W"]),
  (0x10b99, ["PS.ơPAH~VIõŜÏk ŏSEŜÏlŭǅņǊoö"]),
  (0x10ba9, ["PS.ơPAH~VI NĩÍnČnƋnƀmƿųmĩǝnÙç"]),
  (0x10c00, [
    "ıTURKIC:ORKHÖAiY+ISEI AqEiORKHÖIiY+ISEI IpEiORKHÖOoEiY+ISEI OEiORKHÖABiY+ISEI ABiORKHÖAEBi",
    "Y+ISEI AEBiORKHÖAGiY+ISEI AGiORKHÖAEGiY+ISEI AEGiORKHÖADiY+ISEI ADiORKHÖAEDnEZiY+ISEI EZiO",
    "RKHÖAYiY+ISEI AYiORKHÖAEYiY+ISEI AEYiORKHÖAEKiY+ISEI AEKiORKHÖOEKiY+ISEI OEKiORKHÖ.iY+ISEI",
    " .iORKHÖAELnELToMn$nA+iY+ISEI A+iORKHÖâiY+ISEI âiORKHÖ+CiY+ISEI +CiORKHÖ+YiY+ISEI +YpÎiORK",
    "HÖ+GiY+ISEI A+GiORKHÖEPnOPnICnECiY+ISEI ECiORKHÖAQiY+ISEI AQiORKHÖIQiY+ISEI IQiORKHÖOQiY+I",
    "SEI OQiORKHÖARiY+ISEI ARiORKHÖA_oSoESoSHiY+ISEI ASHiORKHÖESHiY+ISEI ESHiORKHÖ>iY+ISEI >iOR",
    "KHÖAETiY+ISEI AETiORKHÖOTnBASH"]),
  (0x10c80, [
    "ıHUĔRI$ƌiAh|EBhƌMBh|ECi+CiECSjDiäiEiCLOS^EiEEjFjGkYjHiIjIiEJjKhƌKh|UNKiELkYjMi+jYiOjOiNIKO",
    "LSBURG OEiRUDIM+* OEiOEEiEPjMPi_hŷǣ_h|ESkZjTiâiETYjCHiUjUiNIKOLSBURG UEiRUDIM+* UEiEVjZkSi",
    "â-S!PEDÂiUS"]),
  (0x10cc0, [
    "ıHUĔRI$ƂiAh;EBhƂMBh;ECi+CiECSjDiäiEiCLOS^EiEEjFjGkYjHiIjIiEJjKhƂKh;UNKiELkYjMi+jYiOjOiNIKO",
    "LSBURG OEiRUDIM+* OEiOEEiEPjMPi_hŎǣ_h;ESkZjTiâiETYjCHiUjUiNIKOLSBURG UEiRUDIM+* UEiEVjZkSi",
    "â-S!PEDÂiUS"]),
  (0x10cfa, [
    "ıHUĔRIÓNĩÍjǑiƿųiĩFIFTYjÙçkúaH$IFI ROǧYAÇl:BAmPAm*mƅmJAmCAm!mÚmFAmDAmŔmRAnRAmZAlËAm!l:KAmGA",
    "m~m=mNAmWAmK%NA WAmYAmK%NA YAmĔmİmVAl VOWEL AsIsUsEsOlÏ,AK%m NA KHONNAlÊ!RBA!Ym*!~mT$Am*SS",
    "I"]),
  (0x10d30, ["H$IFI ROǧYA ŦmįmĤmĥmĴmŁmľmŉmŊmŋ"]),
  (0x10e60, [
    "RUMI įfĤfĥfĴfŁfľfŉfŊfŋfNƿųgĩǝhŹTYhĝTYhFIFTYgǿTYgƿğTYgĩĈYhŶTYhÙçhæçhÿçhŭçhťçgǿ çgƿğ çgĩEĸçh",
    "NǴçfFRAŜ ÙȄlŕÛlŹDkæŹDS"]),
  (0x10e80, [
    "YEZIDýELIFgBEgPEhHEgTHEfIËEfýCIMhHIMiHIMgH!gXAgD.gZ.gRAh!gZAgJAfIË%hH%hADfýDADg*gZEgEYNgXH",
    "EYNgFAgVAi Ǭ^ƚgQAFgKAFgÚFgGAFgógMIMgNUNgUMgWAWgOWgEWg!YgYOTgET"]),
  (0x10eab, ["YEZIDIǋīÁ!MZAÏj=ŔÏg HYPH+ŗ"]),
  (0x10eb0, ["YEZIDýóſgYOǨƷŒ"]),
  (0x10f00, [
    "ıSOGDI$:ĖPHiƻĖPHiBETHiƻBETHiGIMELiHEiƻHEiWAWiZAY%iHETHiYODHiKčióEDHiMEMiNUNiƻNUNm&ĀŅhËAMEK",
    "HhÇY%h:Ǭ^AY%iPEhËADHEh:ƻSADHEnĂĀŅiRESH-AY%-DĖTHhËH%h:*Wiƻ*Wl&ĀŅgÓNĩÍjČjƋjƀjǑiƿųiĩǝjŹTYjÙçh",
    "FRAŜ ÙȄhLIG>ƹAY%-DĖTH"]),
  (0x10f30, [
    "SOGDI$:ĖPHhBETHhGIMELhHEhWAWhZAY%hHETHhYODHhKčhóEDHhMEMhNUNgËAMEKHgÇY%g:PEgËADHEg:RESH-AY%",
    "gËH%g:*WhFETHh<SHfÓ%DEP+Dâ,H%f$ǋīÁȎjæǅùjƲŒjæǥiƵURŲŒlVEĬiÁăãkĬjƇăĬjRESHĬiÉȆĬfÓNĩÍhƿųhĩǝiÙçg",
    "PǷ æĀüSn&öSiȈ&öi ČȈS&öSjȄȈ&ö"]),
  (0x10f70, [
    "ıUYGHUR:ĖPHiBETHiGIMEL-HETHiWAWiZAY%iƻHETHiYODHiKčióEDHiMEMiNUNhËAMEKHh:PEhËADHEh:RESHhËH%",
    "h:*Wi<SHhǋīÁƲŒkȎkæǥlǅùh PǷĎk ČĎSlæöSlŭöS"]),
  (0x10fb0, [
    "CĞASMI$:ĖPHgÓūĖPHg$:BETHiGIMELiDĖTHiHEiWAWiƶÀWAWiZAY%iHETHiYODHiKčióEDHiMEMiNUNhËAMEKHhÇY%",
    "h:PEiRESHhËH%h:*WgÓNĩÍjČjƋjƀiƿųiĩǝjÙç"]),
  (0x10fe0, [
    "ELY=IC:ĖPHhBETHhGIMELhDĖTHhHEhWAWhZAY%hHETHhTETHhYODHhKčhóEDHhMEMhNUNeÕƤAMEKHeICÇY%g:PEeÕƤ",
    "ADHEeIC:QOPHhRESHeÕƤH%eIC:*WeÕLIG>ƹZAY%-YODH"]),
  (0x11000, [
    "BRAHMIǔǦīDUgÊǌhȂhJIHVAMULIYAhUPADHM$IYAgÇhAfýIhIgUhUgǎhRgǵhLgEfIÇIfýOfIÇUfýKAgÚgGAgŠgĔgCAg",
    "ÔgJAh!gİgƅgǜgŔgǉgNNAg*gċgDAh!gNAgPAgągBAh!g=gYAgRAg~gVAfIË!hSAhAfý!gĪgı*MIL LĪmRRAmNNNAfIû",
    "AAhBH>TIĭLU AAhIiIhUiUhǎiRhǵiLhEhAIhOhAUg ǽhDäAhÈDäAhPǷ ökÈökķkCRESñĎkLOTUS"]),
  (0x11052, [
    "BRAHMI NĩÍjČjƋjƀjǑiǿiƿğiĩĈjŶiƿųiĩǝjŹTYjĝTYjFIFTYiǿTYiƿğTYiĩĈYjŶTYjÙçkúhŦhįhĤhĥhĴhŁhľhŉhŊhŋ",
    "gÊı*MIL ǽfýı*MIL,ǣEnOfIûı*MIL,ǣEoOfýı*MIL Ī"]),
  (0x1107f, [
    "BRAHMI NĩJO%_aKAITHIǔǦīDUgÊǌhȂgÇhAfýIhIgUhUgEfIÇIfýOfIÇUfýKAgÚgGAgŠgĔgCAgÔgJAh!gİgƅgǜgŔgDǉ",
    "gǉgR!gNNAg*gċgDAh!gNAgPAgągBAh!g=gYAgRAg~gVAfIË!hSAhAfý!fIûAAhIiIhUiUhEhAIhOhAUgÊǽhNUK*g A",
    "BBREVIìÂh+UM_ìÂhNƿÂgõŜÏg ĘõŜÏhDäAhÈDäAgûǎ"]),
  (0x110cd, ["KAITHI NƿÊŒ"]),
  (0x110d0, [
    "SORA,OMP+GËAHk:*HlBAHlCAHlDAHlGAHl=HlĔHl~HlNAHlVAHlPAHlYAHlRAHl!HlKAHlJAHlİHkÇHk:EEHlIHlUH",
    "lOHlEHl=E"]),
  (0x110f0, ["SORA,OMP+G ŦlįlĤlĥlĴlŁlľlŉlŊlŋ"]),
  (0x11100, [
    "ÔK=ǔǦīDUdÊǌeȂdÇAd:IeUeEeKAAeÚAeGAAeŠAeĔAeCAAeÔAeJAAf!AeİAeƅAeǜAeŔAeǉAeNNAAe*AeċAeDAAf!AeNA",
    "AePAAeąAeBAAf!Ae=AeYYAAfAAeRAAe~AeWAAdËAAd:!AdûAeIfIeUfUeEeAIeOeAUeOId OÏeAUÏeǽe=AYYAA"]),
  (0x11136, ["ÔK= ŦeįeĤeĥeĴeŁeľeŉeŊeŋdõŜÏd DäAeÈDäAeQUESĳÏd:L!AdûAAeEId:VAA"]),
  (0x11150, [
    "=!J$IÇeýIfUfEfOfKAfÚfGAfŠfCAfÔfJAg!fİfƅfǜfŔfǉfNNAf*fċfDAg!fNAfPAfąfBAg!f=fRAf~fVAeIËAeý!fR",
    "RAeIÊNUK*f ABBREVIìÂfõŜÏf LIG>ƹSHRI"]),
  (0x11180, [
    "S!RADAǔǦīDUgÊǌhȂgÇhAg:IiIhUiUhǎiRhǵiLhEgÇIg:OgÇUg:KAhÚhGAhŠhĔhCAhÔhJAi!hİhƅhǜhŔhǉhNNAh*hċh",
    "DAi!hNAhPAhąhBAi!h=hYAhRAh~hĪhVAgË!hSAhAg:!gûAAhIiIhUiUhǎiRhǵiLhEhAIhOhAUgÊǽhAVAGRA!hJIHVA",
    "MULIYAhUPADHM$IYAg OMhDäAhÈDäAhABBREVIìÂgõĚ>ORg,äHIÏgÊNUK*g VOWEL MODIFI_ÏhEXTRA,ǣVOWELÏg,",
    "UTRAÏgûPRĆċěRA EgÊƖCǦīDUg ŦhįhĤhĥhĴhŁhľhŉhŊhŋhEKAMgÂĽǉMg HEADSTROKEhCONT%UìÂgõŜÏ-1k2"]),
  (0x111e1, ["S%!~ ARÔÕįjĤjĥjĴjŁjľjŉjŊjŋjNƿųkĩǝlŹTYlĝTYlFIFTYkǿTYkƿğTYkĩĈYlŶTYlÙçmú"]),
  (0x11200, ["KHOJKIÇhAfýIgUgEfIÇIfýOfIÇUfýKAgÚgGAhGAgŠgĔgCAgÔgJAhJA"]),
  (0x11213, [
    "KHOJKýİgƅgǜgŔgǉgNNAg*gċgDAhŔh!gNAgPAgągBAhBAh!g=gYAgRAg~gVAfIËAfý!gĪfIûAAhIiIhUhEhAIhOhAUg",
    "ÊǌhǽhNUK*gÂĄŔg DäAhÈDäAhWORDõĚ>ORgõŜÏg ĘõŜÏhABBREVIìÂgÂ,UKUN"]),
  (0x11280, ["MULT$IÇfýIgUgEgKAgÚgGA"]),
  (0x11288, ["MULT$ýŠ"]),
  (0x1128a, ["MULT$ýCAgÔgJAhJA"]),
  (0x1128f, ["MULT$ýİgƅgǜgŔgDŔgǉgNNAg*gċgDAh!gNAgPAgągBA"]),
  (0x1129f, ["MULT$ýB!g=gYAgRAg~gVAfIËAfý!gRRAh!fIõŜÏ"]),
  (0x112b0, [
    "KHUDAWADIÇkAiýIkIjUkUjEiIÇIiýOiIÇUiýKAjÚjGAkGAjŠjĔjCAjÔjJAkJAk!jİjƅjǜjŔjDŔjRRAjǉjNNAj*jċjD",
    "Ak!jNAjPAjąjBAkBAk!j=jYAjRAj~jVAiIË!kAiý!iIÊǌjûAAkIlIkUlUkEkAIkOkAUjÊNUK*kǽ"]),
  (0x112f0, ["KHUDAWADI ŦkįkĤkĥkĴkŁkľkŉkŊkŋ"]),
  (0x11300, ["GR$ċÂǋīÁǌãeǔǦīDUeÊǌfȂ"]),
  (0x11305, ["GR$ċÇfAe:IgIfUgUfǎfǵ"]),
  (0x1130f, ["GR$ċ:EEeÇI"]),
  (0x11313, ["GR$ċ:OOeÇUe:KAfÚfGAfŠfĔfCAfÔfJAg!fİfƅfǜfŔfǉfNNAf*fċfDAg!fNA"]),
  (0x1132a, ["GR$ċ:PAfąfBAg!f=fYAfRA"]),
  (0x11332, ["GR$ċ:~fĪ"]),
  (0x11335, ["GR$ċ:VAeË!fSAfAe:!"]),
  (0x1133b, ["đīÁīDUĬaGR$ċÊNUK*fAVAGRA!eûAAfIgIfUgUfǎgR"]),
  (0x11347, ["GR$ċûEEfAI"]),
  (0x1134b, ["GR$ċûOOfAUeÊǽ"]),
  (0x11350, ["GR$ċ OM"]),
  (0x11357, ["GR$ċ AU L+GTHÏ"]),
  (0x1135d, ["GR$ċÊPLU*e:VEDÕǌjÈǌfǎRfǵLeûǵgL"]),
  (0x11366, ["đīÁGR$ċ ŦiįiĤiĥiĴiŁiľ"]),
  (0x11370, ["đīÁGR$ċÇh:KAiNAiVIiPA"]),
  (0x11400, [
    "NEWAÇfAe:IgIfUgUfǎgRfǵgLfEeÇIe:OeÇUe:KAfÚfGAfŠfĔfNŠfCAfÔfJAg!fİfNY!fƅfǜfŔfǉfNNAf*fċfDAg!fN",
    "Ag!fPAfąfBAg!f=fM!fYAfRAg!f~fL!fWAeË!fSAfAe:!eûAAfIgIfUgUfǎgRfǵgLfEfAIfOfAUeÊǽeǔǦīDUeÊǌfȂf",
    "NUK*fAVAGRA!fƻǌe OMeĽDDHIe DäAfÈDäAeǋ=e GAP FILL_fABBREVIìÂfŦfįfĤfĥfĴfŁfľfŉfŊfŋfĘǋ=fP~CEHO",
    "LD_Ï"]),
  (0x1145d, ["NEWA %S_ĳÂe,äHIÏe:VEDÕǌeÊJIHVAMULIYAfUPADHM$IYA"]),
  (0x11480, [
    "TIRHU* $JIgÇhAg:IiIhUiUhǎiRhǵiLhEgÇIg:OgÇUg:KAhÚhGAhŠhĔhCAhÔhJAi!hİhƅhǜhŔhǉhNNAh*hċhDAi!hN",
    "AhPAhąhBAi!h=hYAhRAh~hVAgË!hSAhAg:!gûAAhIiIhUiUhǎiRhǵiLhEhSǣEhAIhOhSǣOhAUgǔǦīDUgÊǌhȂhǽhNUK",
    "*hAVAGRA!g GVÎhABBREVIìÂhOM"]),
  (0x114d0, ["TIRHU* ŦhįhĤhĥhĴhŁhľhŉhŊhŋ"]),
  (0x11580, [
    "SIǉMÇfAe:IgIfUgUfǎgRfǵgLfEeÇIe:OeÇUe:KAfÚfGAfŠfĔfCAfÔfJAg!fİfƅfǜfŔfǉfNNAf*fċfDAg!fNAfPAfąf",
    "BAg!f=fYAfRAf~fVAeË!fSAfAe:!eûAAfIgIfUgUfǎgR"]),
  (0x115b8, [
    "SIǉMûEfAIfOfAUeǔǦīDUeÊǌfȂfǽfNUK*eÂĽǉMe DäAfÈDäAeõĚ>OR öjĎe REPETIĳÏ-1o2o3f+D ØTEXTÏeõŜÏ&TR",
    "IDâÐU-S!PÀƺSoǾÀCRESñSiRAYSÐǾÀCRESñSpÈCRESñSpǈáCRESñSh Èǀk&RAYSh&ÈCRESñSiǈáCRESñSiQUADRUPáC",
    "RESñSiSEPTUPáCRESñSiøSÐRAYSlæ+CLOSURESlŭ+CLOSURESe:Ƌ-űǬ^IfČ-űǬ^IlIfǬ^UeûǬ^UiU"]),
  (0x11600, [
    "MODIÇfAdýIfIeUfUeǎfReǵfLeEdIÇIdýOdIÇUdýKAeÚeGAeŠeĔeCAeÔeJAf!eİeƅeǜeŔeǉeNNAe*eċeDAf!eNAePAe",
    "ąeBAf!e=eYAeRAe~eVAdIË!fSAfAdý!eĪdIûAAfIgIfUgUfǎgRfǵgLfEfAIfOfAUeÊǌfȂfǽfŞ!CǦe DäAfÈDäAfABB",
    "REVIìÂeÊHUVA"]),
  (0x11650, ["MODI ŦfįfĤfĥfĴfŁfľfŉfŊfŋ"]),
  (0x11660, [
    "MONGOLIÓBIRGA&ƺiƐBIRGAiÈBIRGA&ƺiǈáBIRGA&ƺiBIRGA&ÈƺiƐBIRGA&ƺpÈƺiƖBIRGAo&Èƺh$,WIRL BIRGAt&ƺu",
    "ÈƺhÓŏSWIRL BIRGA&Èƺ"]),
  (0x11680, [
    "*KRIÇfAdýIfIeUfUeEdIÇIdýOdIÇUdýKAeÚeGAeŠeĔeCAeÔeJAf!eİeƅeǜeŔeǉeNNAe*eċeDAf!eNAePAeąeBAf!e=",
    "eYAeRAe~eVAdIË!fAdý!eRRAdIÊǌfȂeûAAfIgIfUgUfEfAIfOfAUeÊǽfNUK*eÇRÔÕÚe ABBREVIìÂ"]),
  (0x116c0, ["*KRI ŦfįfĤfĥfĴfŁfľfŉfŊfŋ"]),
  (0x11700, ["AHOM:KAfÚfĔfNAf*fǬ^*fPAfąfBAf=fJAfÔfċfRAf~eËAe:İf!eÇe:DAg!fGAfǬ^GAfŠfB!fJ!fǬ^BA"]),
  (0x1171d, ["AHOM CONSON$TÊMEDIÆ~tRAtLIG>ÁRAeûAgAfIgIfUgUfEfAWfOfAIgMeÊKILL_"]),
  (0x11730, ["AHOM ŦfįfĤfĥfĴfŁfľfŉfŊfŋfNƿųgĩǝeÂœõŜfõŜeÊRU~IeŢVIe:CAfƅfǜfŔfǉfNNAfĪ"]),
  (0x11800, [
    "DOGRAÇgAf:IhIgUhUgEfÇIf:OfÇUf:KAgÚgGAgŠgĔgCAgÔgJAh!gİgƅgǜgŔgǉgNNAg*gċgDAh!gNAgPAgągBAh!g=g",
    "YAgRAg~gVAfË!gSAgAf:!gRRAfûAAgIhIgUhUgǎhRgEgAIgOgAUfÊǌgȂgǽgNUK*f ABBREVIìÂ"]),
  (0x118a0, [
    "WARÎ CITI|ĔAjƌj|WIkYUlAlOkIIkUUkEkOkÎkGAkKOk+YkYUJkUCk+NkODDkTTEkNŃkDAk>jƌMj|BUkPUkHIYOlOL",
    "OkĞRk!RjŷSUUkIIj|VIYOj;ĔAjƂj;WIkYUlAlOkIIkUUkEkOkÎkGAkKOk+YkYUJkUCk+NkODDkTTEkNŃkDAk>jƂMj;",
    "BUkPUkHIYOlOLOkĞRk!RjŎSUUkIIj;VIYOj ŦkįkĤkĥkĴkŁkľkŉkŊkŋkNƿųlĩǝmŹTYmĝTYmFIFTYlǿTYlƿğTYlĩĈYm",
    "ŶTY"]),
  (0x118ff, ["WARÎ CITI OMaDIVES AKURUÇmAl:InImUnUmE"]),
  (0x11909, ["DIVES AKURU:O"]),
  (0x1190c, ["DIVES AKURU:KAmÚmGAmŠmĔmCAmÔmJA"]),
  (0x11915, ["DIVES AKURU:İmƅ"]),
  (0x11918, [
    "DIVES AKURU:ŔmǉmNNAm*mċmDAn!mNAmPAmąmBAn!m=mYAnYAmRAm~mVAlË!mSAmAl:!mĪmZAlûAAmInImUnUmE"]),
  (0x11937, ["DIVES AKURUûAImO"]),
  (0x1193b, [
    "DIVES AKURUÊǌlǔǦīDUlÊH.$*l ǽmPREFIXÀNAS.ÂmMEDIÆYAm%ITIÆRAmMEDIÆRAlÊNUK*l ÈDäAmGAP FILL_m+D",
    " ØTEXTÏ"]),
  (0x11950, ["DIVES AKURU ŦmįmĤmĥmĴmŁmľmŉmŊmŋ"]),
  (0x119a0, ["Nä%AGARIÇjAhýIjIiUjUiǎjR"]),
  (0x119aa, [
    "Nä%AGARýEhIÇIhýOhIÇUhýKAiÚiGAiŠiĔiCAiÔiJAj!iİiƅiǜiŔiǉiNNAi*iċiDAj!iNAiPAiąiBAj!i=iYAiRAi~i",
    "VAhIË!jSAjAhý!iĪiRRAhIûAAjIkIjUkUjǎkR"]),
  (0x119da, ["Nä%AGARIûEjAIjOjAUiÊǌjȂjǽjAVAGRA!iÂĽǉMi HEADSTROKEiûPRĆċěRA E"]),
  (0x11a00, [
    "Z$ABAZARģÇjûIkUElkEkOElkAIlUkŰIiǓVOWEL L+GTHÏiģ:KAkÚkGAkŠkĔkCAkÔkJAkİkƅkǜkŔkǉkNNAk*kċkDAl!",
    "kNAkPAkąkBAl!k=kTSAm!kDZAm!kZ!lAk-AkYAkRAk~kVAiǓƤ!kSAkAiģ:!kKSSAiǓƻCONSON$TÏiģÊǽjǔǦīDUnƁƺl",
    "&ƺjÊǌkȂiǓCLUSÛ-%ITI.:RApƻȖYArRAr~rVAj%ITIÆHEADÏjCLOSÁHEADÏiģÏ TSHEGkĄDk ĘĄDlƇTSHEGiǓ%ITIÆĘ",
    "-L%ÀHEADÏjCLOSÁĘ-L%ÀHEADÏiģƒJO%_"]),
  (0x11a50, [
    "SOYOMBOÇhûIiUEjiEiOjEiAIjUiǎiǵh VOWEL L+GTHÏh:KAiÚiGAiŠiĔiCAiÔiJAj!iİiƅiǜiŔiǉiNNAi*iċiDAj!",
    "iNAiPAiąiBAj!i=iTSAk!iDZAiZ!jAi-AiYAiRAi~iVAhË!iSAiAh:!iKSSAhÊJIHVAMULIYAiUPADHM$IYAh CLUS",
    "Û-%ITI.:RAu~tË!uAiƻCONSON$TÊGsKsNGsDsNsBsMsRsLrÂ,HtrÊ-AhÊǌiȂh GEM%ŗhƒJO%_hÏ TSHEGiĄDi ĘĄDj",
    "PLU*h HEADÏ&MOÖä,UNÐǈáFóEwFóEviÛM%.Ï-1o2"]),
  (0x11ab0, [
    "C$ADI$ȘICS N>TILIK HIvIuOvOt!uAs,HRIwIvOwOvAwAjƬPElIlOlAaPAU Cş!U:PAjKAj~j=jDAjZAjVAjĔj!jG",
    "AjÚiËAi:BAjCAj*jċjNAjąjRAjFAjÔiÇi:EjIjOjUkAjIAjƻPkKkTkMkNkLkWkNGkYi RISÁTÙȇoÍi,äHI GLOTTȍń",
    "i RISÁTÙƇF%.pF%.i,äHI GLOTTȍń F%.nTÙȇoÍoÙƇF%.pF%.i MID-<VEL TÍjGLOTTȍń ĺNTjMID-<VEL TÙƇF%.",
    "uF%.jǹ-FÜÁTÙȇpÍjGLOTTȍńjǹ-FÜÁTÙƇF%.qF%.jGLOTTȍń F%."]),
  (0x11c00, ["B!IKSUKIÇjAhýIjIiUjUiǎjRiǵ"]),
  (0x11c0a, [
    "B!IKSUKýEhIÇIhýOhIÇUhýKAiÚiGAiŠiĔiCAiÔiJAj!iİiƅiǜiŔiǉiNNAi*iċiDAj!iNAiPAiąiBAj!i=iYAiRAi~i",
    "VAhIË!jSAjAhý!hIûAAjIkIjUkUjǎkRjǵ"]),
  (0x11c38, ["B!IKSUKIûEjAIjOjAUiǔǦīDUiÊǌjȂjǽjAVAGRA!i DäAjÈDäAjWORDõĚ>ORjGAP FILL_-1t2"]),
  (0x11c50, [
    "B!IKSUKI ŦjįjĤjĥjĴjŁjľjŉjŊjŋjNĩÍlČlƋlƀlǑkǿkƿğkĩĈlŶkƿųkĩǝlŹTYlĝTYlFIFTYkǿTYkƿğTYkĩĈYlŶTYjçS",
    " UNITÏ"]),
  (0x11c70, [
    "=RCH+ HEADÏfÏĄDf:KAgÚgGAgĔgCAgÔgJAgİg*gċgDAgNAgPAgągBAg=gTSAi!gDZAgWAgZ!hAg-AgYAgRAg~fË!gA",
    "f:!fÇ"]),
  (0x11c92, ["=RCH+ƒJO%ED:KAmÚmGAmĔmCAmÔmJAmİm*mċmDAmNAmPAmąmBAm=mTSAo!mDZAmWAmZ!nA"]),
  (0x11ca9, ["=RCH+ƒJO%ED:YAmRAm~jÀƤ!lAjED:!lÇfûAAgIgUgEgOfÊǌfǔǦīDU"]),
  (0x11d00, ["=SARAM GONDIÇnAlýInImUnUmE"]),
  (0x11d08, ["=SARAM GONDIÇIlýO"]),
  (0x11d0b, [
    "=SARAM GONDIÇUlýKAmÚmGAmŠmĔmCAmÔmJAn!mİmƅmǜmŔmǉmNNAm*mċmDAn!mNAmPAmąmBAn!m=mYAmRAm~mVAlIË!",
    "nSAnAlý!mĪmKSSAmJİmTRAlIûAAnIoInUoUnǎ"]),
  (0x11d3a, ["=SARAM GONDIûE"]),
  (0x11d3c, ["=SARAM GONDIûAInO"]),
  (0x11d3f, ["=SARAM GONDIûAUmÊǌnȂnNUK*mǔǦmÊH.$*m ǽnREąoA-KARA"]),
  (0x11d50, ["=SARAM GONDI ŦnįnĤnĥnĴnŁnľnŉnŊnŋ"]),
  (0x11d60, ["GUNJA~ GONDIÇnAlýInImUnU"]),
  (0x11d67, ["GUNJA~ GONDýEElIÇI"]),
  (0x11d6a, [
    "GUNJA~ GONDýOOlIÇUlýYAmVAmBAn!m=mKAmÚm*mċm~mGAmŠmDAn!mNAmCAmÔmƅmǜmĪmJAn!mŔmǉmĔmPAmąm!mRAlI",
    "ËAmûAAnIoInUoU"]),
  (0x11d90, ["GUNJA~ GONDIûEEnAI"]),
  (0x11d93, ["GUNJA~ GONDIûOOnAUmÊǌnȂm ǽnOM"]),
  (0x11da0, ["GUNJA~ GONDI ŦnįnĤnĥnĴnŁnľnŉnŊnŋ"]),
  (0x11ee0, [
    "=KASAR:KAhGAhĔhPAhBAh=h*hDAhNAhCAhJAhİhYAhRAh~hVAgËAgÇg ÎKAgûIhUhEhOg PASSIMBÎh+D OFõŜ"]),
  (0x11fb0, ["LISU:Y!"]),
  (0x11fc0, [
    "*MIL FRAŜ ÙƋ-ç-ä-TWâIETHlÍ-ç-ä-SIXTIETHlĈIETHkÍżTY-ƀTHkÙĝTIETHlŹTY-SECONDkÿĈIETHSkƋżTY-ƀTH",
    "SkÙTWâIETHkÍżƎTH-1q2kÙTâHlĈHkÿTWâIETHSkƋżƎTHSkÙFIFTHlŕÛlȄ-1n2kÿŕÛSkƈSC.ÁFACTOR KIIZHeÊNELe",
    "ǔEVITUeÊAAZ!AKKUfUZ!KKUfMUUVUZ!KKUfKURUNIfP>!KKUfMUKKURUNIfKAACUfP$AMgONfVARAAK$fPAARAMfKU",
    "ZHIfVELIe WET CULTIVìÂfDRY CULTIVìÂfLäÂe,.T P$Âe TRADIĳÆCREDITÂmNƿÂfCURRâÂeÐODDÂe,PâÂe TOT",
    ".ÂfşPOSSESSŖÂeƙTÁFROMÂeÊMUTH.IYAfVAKAIYARAA"]),
  (0x11fff, [
    "*MIL PǷ +D ØTEXTaCUNEIƚÊAiåAjBADjG$2ųUj!jIGIj~GAR GUNUjMUSHjSAGi2iBjåASH2kDUN3 GUNUkG.l$2ų",
    "Uk!kIGI GUNUlM%k~GABkSHESHkU ĉU ĉUj GUNUj2kåBA~GlG$2ųUlM^ĉ+lS!3l*K4iDiKjå_%2kSHI* ĉGĆh.iå.",
    "jDIM2jGĆj!jKAD3kIjSHEjUSHi$hĖPHhA=RkåSHEh$iĲ$hÓÿȕSiĉNAGA OPPOSÁÓĉNAGAnģDh$SHEhAP%iRADlåKUR",
    "jKABiS.2jHk ZIDAųUlKABAųUkĲASH TUG2ĲTUG2 TUG2ĲTUG2 PAPoĲASHsƳÁASHĲASHĲASHk2kGABhBAjDjG3j!R",
    "2i.jĲB.iA~GgÂĎiA2gÊBIjåAkGARkIGI GUNUiUjĲBU ABnUNjƳÁBUjLUGmĲBULUGjRk2hDAjGk KISIM5åA ĉ=SHt",
    "=RsBA~GtIsGAu ĉ=SHtIuR2tUDs!sIRu ĉLUsKAKs~sLUu ĉ=SH2uMsNEsPAP ĉPAPsSIs*K4sU2 ĉGIR2tSHjMjRk",
    "A3l4iIjBjMkåSHEk2i%işKASKÆU GUNU DĆiĆiUjĲDUj GUNUjŪSHIGjBkåESH2k2jGkUDjHjNk3l GUNUq GUNUk4",
    "jR2hEiåPAPh^Ȑ^NUNĲNUNhE2jåA ĉ! ĉDAkGARkMIkS.lHEkUiD%iGIRiLh+iåG$2mųUjMEiƳÁ+i OPPOSÁ+iģDh_+",
    "i%2hESH2iZ+kåAm ĉL.qåL.l$lBADlDUN3 GUNUu GUNUl!m GUNUlIGI GUNUlKASK.qģDmU3l~lL.åL.mImUlU2m",
    "DhGAj GUNUj2kåA ĉDA ĉ!o!oIGImB2ųU ĉ*Bl$lASHo2 ĉG.lBADlü ĉRAlBURo ĉRAlDAmInMåSHEmUBlELn ĉ~l",
    "+måG$2ųUlG$2ųUmARmIn4o ĉAnR2 ǳ,Ul! ĉLU ĉESH2lH.mÆĉ~mI ĉLImUB2lIGI GUNUlĆ ĉHU ĉASHlKAKnSK.m",
    "IDo ĉL.mU3 ĉ$l~lM^ĉ+mIlNUNoĲNUNlPAlS.mARmHEn^ĉTURnIDmUMl*K4lUmDn ĉDUkĲGA2jBAlƳÁGABAjDkĲGAD",
    " GARĲGARi.iÆGADĲGAD GARĲGARiAójMi$j2kųUkĲG$2kƳÁG$2iARk3jSH$iESHT%nåKURiIjåEkUjƳÁGIj4kĲGI4k",
    "ƳÁGI4jDIMjR2l GUNUk3låA ĉIGImG$2ųUmIGImLU ĉIGImPAjS.iĆjƳÁGĆjåBADk*K4jųUiUjƳÁGUj2kåKAKoåIGI",
    " GUNUlNUNlSÆĉTUG2k GUNUjDkåA ĉKURlKURkĲGUD LUG.jLjMkåSHEjRk7kUNlSHh!iųUi GUNUhH.iIjåASHn2k",
    "BADkDĆkGADkK%kNUNkSHEkUiUjB2lå$mH.mKASK.mLĆmUDjL2hIi AiBiDIMlĲIDIM BURqģDiGjIk DIBlRIkĲIGI",
    ",HIRĲSHIR UDĲUDk GUNUiLjåG$2ųUj2iMjå*K4jƳÁIMj OPPOSÁIMjģDj%h%hIRhĆhKAjåAlDm ĉKU3lSH2kBADm~",
    "GkükBIk_%2kESH2kGAl.l$2ųUlARn ǳĄ3 ĉAlImR2lĆ ǳ,ARmƳÁGĆlUmR7kIGIlMkKAKlImDkLIlUkMEl^ĉDUnGInT",
    "ElIm ĉNUNUZkNElUNkPIkRUkSAmRl!lHEmIDmUlIGlUHURk*RkUl2lDlMUMåPAlSHkZIj2kƳÁKA2jBjD2k3k4k5lĲK",
    "AD5jKkåIGI GUNUi.jåBADjƳÁK.iAM2k4jSK.lÆ~GABåUĲ~GABåUl.ĲKASKÆ~GABåUĲ~GABåUiESH2iIjåBADkUlDj",
    "Di%iIS.iĆiISIM5nĲKISIM5iUjĲHIåASH2 KUĲHIåASH2j3j4k ĺNT ƚj7jLk GUNUjNjRk OPPOSÁKURjSHU2iWU3",
    "18h~iGABlåAn ĉDA ĉ!pGARpL.m.m$mASH ZIDAųUmBADnImDARm+mGAoRnUDp ĉGUDm!mH.nIåNUNmIGI GUNUnMo",
    " ĉ!qLUmKIn%nU3oLp ĉHI ĉAm~GABmLĆnUoLmMEn^ĉ+nUSHmNEmSH^ǳ,UMoI* ĉGĆ ĉ_%2uųUoU2q ǳ,HU2nUMm*Gn",
    "K4mT^ĉA ǳ,U ĉNAmUn ĉApU ĉUn2 ĉASHnDnSHlģDkRlåSHEo^ǳ,UMl GUNUqĲ~GAR GUNUŪiHSHUhL.jåL.hóiåKU",
    "Rm ĉRUhLIjLjMMU2iĆiUjåBADj2kå.lBADlESH2pųUlG$2ųUlHIåBADlIMlKAD2o3p ĉASHmIl~ ĉASHmGABlM^ĉ+l",
    "NEmUlSI ĉASHnK2 ĉBUlTUG2kųUkƳÁLU2k OPPOSÁLU2kģDkŪSHIGj3jG.lĲLUG.kÆOPPOSÁLUG.k.ŪSHIGjHjLjMk",
    "ĲLUMo GARĲGARh=iå*K4i GUNUi2iHiRiSHk2hMEjSiIi%iUjĲMUjGk GUNUjNSUBjRGU2jSHlåAmKURmZAlĲMUSHq",
    "åA ĉNAlƳÁMUSHl3måAo ĉDInDIm GUNUhNAj2jGAl %ŵTEDlåSHUųUl OPPOSÁNAGAlRjM NUTILLUkk2iEjåAkUDj",
    "ŪSHIGiIjåEj2jMkåG$2ųUmAR ĉG$2ųUi%DA2må$nASHq ĉASHnGUDnM^ĉG$2ųUnNEoUNnSHEp^ĉA $sSHu ĉASHnU2",
    " ĉASHoSHiISAGiUj11jNk ~GARåGARq=SHqS.sĲNUN ~GARåS.qUSHkųUkĲNUNkƳÁNUNp ~GARĲ~GARkUZm AB2åAS",
    "HGABrBIrDUGrGUDrIGI GUNUrKAD3r~rNErSI~3rU2nKISIM5åBIw UhPAjDi$iAPiESH2iIjåAlBkBIlUkEkIlBkU",
    "l2jƳÁPIjRIGmåK.nUDnZAm OPPOSÁPIRIGhRAjBiIiUgÂ,AjG NUTILLUkkåAlDUnBl!lKAKmURlLUMlMIlNUNlS.m",
    "HIDl*BlU2mBmMmRmSHkĲSAGk GUNUi.iÆ~GABåASH2iAĔ2jRhĄi3jåAkBADkGĆkNEkSHU2kTURkUl ĉAi6iB6iR2hŪ",
    "h,H^HUhŪĲSH^GADĲGAD GARĲGARm*BĲ*B GARĲGARiG9h,H+hŪSHk2kóh,HIDlåAmIMkMlåAmB.nULUGmD%mGARmIG",
    "Ip GUNUmKUSHU2mLULmMUGmS.j%IGjIRlųUlĲSHIR BURĲBURk*jUkĲƖSHUk2kBURhĽi GUNUiGj4kĲSIG4,HU2iK2",
    "i~3h,UjĲSUjDk2jHURjMj=SHjRk9gÊ*i ǙiåHIjMIi GUNUiBjĲ*B NIĲNI DĆĲDĆjģDiGjåBIkGUDkSHEmUkTUG2k",
    "UDiK4iRhTEi^GUNUiIjųUjLjRkå*K4kĲTIRo GADĲGAD GARĲGARiUjG2jKjMjRkĲTUR ZAĲZAhUi GUDjU UiĲU P",
    "AĲPA GARĲGARk,URĲSURk U ŰȐU ȊSEDi2iBiDj KUSHU2jåBADkMIkU ĉU ĉUr GUNUj GUNUjŪSHIGoåBADjUGiM",
    "jå~GABkM^ĉDAkS!3kUjījUMlåKASK.mPAiNj GUNUiRjƳÁURjŪSHIGj2kåA ĉ!oNAl.l!lNUNlU2n ĉASHpBIj4jIk",
    "3jUkåAmSHGABlülDUNlGAm.m$2ųUmARmUl!lIGImMlĆlKIlLUMlM%lPAlSHEmIG4lTUlU ĉGUDmDmRUDAkDAmåUiSH",
    "kåAlKUnRl*K4kXk2kUMXiTUKIiZ3kåKASK.jUhZAjųUjģDåKURjGjMXiE2iIjĲZIj3jBk KABAųUjGjZ2iUj5kåAjB",
    "URjMhKAP EóITEhABåNUNj2åAi=RåKUGhDAG KISIM5åU2 ĉ=SHk3iĆ ǳ,HUiUBåSHEhEZ+åGUDlSHEhGA2åÓĉKAK ",
    "ĉAlASH2iE22iIGhHUSHhKAå$SHEkASH3kGĆlUDkHIåASH2kLUMkPAkSHULkTUkUR2h~GABåGIhLU2ŪSHIGåBADkåES",
    "H2 ĉL.lSHUhMESHiUSH3åZAhNA4i%j9jDA2åB.nGIiU11 ƐŶĦǂhPESH2 ǙiIR2gÂ,AGåIGI GUNUgÊTI2hUMåMEi U"]),
  (0x12400, [
    "CUNEIƚ NUM_ICÊæASHoÿASHoŭASHoťASHnÂż ASHoğ ASHnÊEĸASHoNǴASHoÿDĆoŭDĆoťDĆnÂż DĆoğ DĆnÊEĸDĆoN",
    "ǴDĆoŭUoťUnÂż Uoğ UnÊEĸUoNǴUoÙGESH2oæGESH2oÿGESH2oŭGESH2oťGESH2nÂż GESH2oğ GESH2nÊEĸGESH2oN",
    "ǴGESH2oÙGESHUoæGESHUoÿGESHUoŭGESHUoťGESHUoČĄR2oƋĄR2s ĺNT ƚoƀĄR2oǑĄR2nÂżĄR2oğĄR2nÊĈĄR2oŶĄR2",
    "oÍĄRUoČĄRUoƋĄRUs ĺNT ƚoƀĄRUoǑĄRUnÂĄR2åGÆĉDĆvM%nÊÙBURUoæBURUoÿBURUt ĺNT ƚoŭBURUoťBURUoÿĺNT ",
    "ƚ ESH16y21oŭĺNT ƚ LIMMUzU4zU AzU BnÂż ĺNT ƚ ASH9oğ ĺNT ƚ IM%3yşAzBnÊEĸĺNT ƚ USSUzU3oNǴĺNT ",
    "ƚ ILIMMUzMMU3zMMU4zMMU AoæASHųUoÿASHųUoŭASHųUoťASHųUnÂż ASHųUnÊÙB$2oæB$2oÿB$2oŭB$2s ĺNT ƚo",
    "ťB$2s ĺNT ƚoNIGIDAM%uESHoÙESHE3oæESHE3oÙŹD DĆoæŹDS DĆoǑżTHS DĆoÙŹD ĺNT ƚ AoæŹDS ĺNT ƚ AoÙĈ",
    "H ASHpŕơASHoıASSYRIÓÍżTHwÙŕÛoÙŕơGURpāGURoEóIT^ÙŹDtæŹDStĝTYtFIFTYoŭU ĺNT ƚoťU ĺNT ƚnÂż U ĺN",
    "T ƚoğ U ĺNT ƚnÊEĸU ĺNT ƚoNǴU ĺNT ƚ"]),
  (0x12470, ["CUNEIƚ PǷÊıASSYRIÓWORD DIVID_kĀCǤkǡÆCǤmTRICǤmQUADCǤ"]),
  (0x12480, [
    "CUNEIƚÊABåNUNųUkSHU2iDåESH2hBADåDĆųUj!R2åAB2nNInZAiUĲBUåNA2hDAå*K4jGåKURiIMåIGIlU U Uk2åUD",
    "iUGå$SHElASHo > ĒlD%mUNl_%2lGAmInR2 GUNUmĆl!lHIlIGI GUNUlKASK.mURnSHU2r ĉKASK.l~K-020lómåK",
    "URlLUH ĉGĆl=SHlMESmIlNIlPIlSHEmI GUNUhE2åKURkPAPh_%2 XhESH2ƳÁESH2iZ+ŪSHIGåASHqHIqIGI GUNUq",
    "~qL.qMEsSqSUkåSUhGA2åBA!R2lDIM GUNUmUGåIGI GUNUpKASK.l_+lGAnR ĉDIqNEl! ĉAlKUSHU2 ĉKASK.lóm",
    "åKURlLUHlMUSHlNEm^ĉE2oGIlSHIMlZIZ2jBA ƐŶĦǂiESHT%åUiĆåGĆƳÁGĆiU2åIGI GUNUjD ĉGĆå*K4h!ųU GUNU",
    "hHIåASHĲHIåASHhKAåBUkKAkU U UlRh~GABåZUĲZUiK-003l21m5l30l50m1l62l79Ĳ~K-079 GUNUl80m1Ĳ~K-08",
    "1l92k130l42k210m9l20m5m8l38l65m6k343m7m8l83m4l90k441m9nåGUoIGIoPAP ĉLU3tPAP ĉLU3oU2 ĉBAl50",
    "m7l70l83l90m2m3m5k550k608l17nåASHoBADoDUN3 GUNU GUNUoKU3o~o*RoTEoU2pDpRUDAl36l48nåDUBoGAoI",
    "GIr GUNUoNIoPAP ĉPAP ĉLU3oSHESH ĉKIoUDpRUDAk724l49hLU2 GUNUåASHkåDĆlH.lPAPo ĉPAP ĉLU3l*K4h",
    "MI ĉZA7iUSHĲMUSHåGArKAKhN%DA2åDIM GUNUnGĆoULnHInKESH2n~K-050n=SHnPAP ĉPAPnUo ĉUoRUDAgÂ,AG ",
    "GUNUå!kå+lSH^> Ēl*K4hĄ6ųUh,H^ƃŪkĉHUB2lNAM2kǳ,ARjU2 ĉDUGåNInE2å$hĽå*K4gÊ*K4 ǳ,AGhTUMåG$2ųUl",
    "ÿDĆhUR2 %ŵTEDkåUDjUåDARA3l~K-668lLU3hZA7iUĲZU ǳ,ARj5åÿDĆųU"]),
  (0x12f90, [
    "CYĭ-M%O$ǔM001m2m4m5m6m7m8m9l10m1m2nBm3m5m7m9l21m3m4m5m6m7m8m9l30m3m4m5m6m7m8m9l40m1m4m6m7m",
    "9l50m1m2m3m4m5m6m8m9l60m1m2m3m4m6m7m8m9l70m1m2m3m4m5nBm6m8m9l80m1m2m3m4m5m6m7m8m9l90m1m2m4",
    "m5m6m7m8m9k100m1m2m3m4m5m7m8m9l10m2m4k301m2"]),
  (0x13000, [
    "EGYPTIÓHI_OGLYPH A001u2u3u4u5vAu6vAvBu7u8u9t10u1u2u3u4vAu5u6u7vAu8u9t20u1u2u3u4u5u6u7u8u9t",
    "30u1u2vAu3u4u5u6u7u8u9t40vAu1u2vAu3vAu4u5vAu6u7u8u9t50u1u2u3u4u5u6u7u8u9t60u1u2u3u4u5u6u7u",
    "8u9t70rB001u2u3u4u5vAu6u7u8u9rC001u2vAvBvCu3u4u5u6u7u8u9t10vAu1u2u3u4u5u6u7u8u9t20u1u2u3u4",
    "rD001u2u3u4u5u6u7u8vAu9t10u1u2u3u4u5u6u7u8u9t20u1u2u3u4u5u6u7vAu8u9t30u1vAu2u3u4vAu5u6u7u8",
    "u9t40u1u2u3u4u5u6vAu7u8vAu9t50vAvBvCvDvEvFvGvHvIu1u2vAu3u4vAu5u6u7u8u9t60u1u2u3u4u5u6u7vAv",
    "BvCvDvEvFvGvHrE001u2u3u4u5u6u7u8vAu9vAt10u1u2u3u4u5u6vAu7vAu8u9t20vAu1u2u3u4u5u6u7u8vAu9t3",
    "0u1u2u3u4vAu6u7u8rF001vAu2u3u4u5u6u7u8u9t10u1u2u3vAu4u5u6u7u8u9t20u1vAu2u3u4u5u6u7u8u9t30u",
    "1vAu2u3u4u5u6u7vAu8vAu9t40u1u2u3u4u5vAu6vAu7vAu8u9t50u1vAvBvCu2u3rG001u2u3u4u5u6vAu7vAvBu8",
    "u9t10u1vAu2u3u4u5u6u7u8u9t20vAu1u2u3u4u5u6vAu7u8u9t30u1u2u3u4u5u6vAu7vAu8u9t40u1u2u3vAu4u5",
    "vAu6u7u8u9t50u1u2u3u4rH001u2u3u4u5u6vAu7u8rI001u2u3u4u5vAu6u7u8u9vAt10vAu1vAu2u3u4u5rK001u",
    "2u3u4u5u6u7u8rL001u2vAu3u4u5u6vAu7u8rM001vAvBu2u3vAu4u5u6u7u8u9t10vAu1u2vAvBvCvDvEvFvGvHu3",
    "u4u5vAu6vAu7vAu8u9t20u1u2vAu3u4vAu5u6u7u8vAu9t30u1vAu2u3vAvBu4u5u6u7u8u9t40vAu1u2u3u4rN001",
    "u2u3u4u5u6u7u8u9t10u1u2u3u4u5u6u7u8vAvBu9t20u1u2u3u4u5vAu6u7u8u9t30u1u2u3vAu4vAu5vAu6u7vAu",
    "8u9t40u1u2sL001v2v3v4v5wAv6v7v8v9u10v1v2v3v4v5v6v7wAv8v9u20sU001v2v3v4v5v6v7v8v9u10wAv1wAv",
    "2v3v4v5v6v7v8wAv9u20v1v2wArO001vAu2u3u4u5vAu6vAvBvCvDvEvFu7u8u9t10vAvBvCu1u2u3u4u5u6u7u8u9",
    "vAt20vAu1u2u3u4vAu5vAu6u7u8u9vAt30vAu1u2u3vAu4u5u6vAvBvCvDu7u8u9t40u1u2u3u4u5u6u7u8u9t50vA",
    "vBu1rP001vAu2u3vAu4u5u6u7u8u9t10u1rQ001u2u3u4u5u6u7rR001u2vAu3vAvBu4u5u6u7u8u9t10vAu1u2u3u",
    "4u5u6vAu7u8u9t20u1u2u3u4u5u6u7u8u9q,001t2uAt3t4t5t6uAt7t8t9s10t1t2t3t4uAuBt5t6t7uAt8t9s20t",
    "1t2t3t4t5t6uAuBt7t8t9s30t1t2t3t4t5uAt6t7t8t9s40t1t2t3t4t5t6q T001u2u3vAu4u5u6u7vAu8vAu9vAt",
    "10u1vAu2u3u4u5u6vAu7u8u9t20u1u2u3u4u5u6u7u8u9t30u1u2vAu3vAu4u5u6rU001u2u3u4u5u6vAvBu7u8u9t",
    "10u1u2u3u4u5u6u7u8u9t20u1u2u3vAu4u5u6u7u8u9vAt30u1u2vAu3u4u5u6u7u8u9t40u1u2rV001vAvBvCvDvE",
    "vFvGvHvIu2vAu3u4u5u6u7vAvBu8u9t10u1vAvBvCu2vAvBu3u4u5u6u7u8u9t20vAvBvCvDvEvFvGvHvIvJvKvLu1",
    "u2u3vAu4u5u6u7u8vAu9vAt30vAu1vAu2u3vAu4u5u6u7vAu8u9t40vArW001u2u3vAu4u5u6u7u8u9vAt10vAu1u2",
    "u3u4vAu5u6u7vAu8vAu9t20u1u2u3u4vAu5rX001u2u3u4vAvBu5u6vAu7u8vArY001vAu2u3u4u5u6u7u8rZ001u2",
    "vAvBvCvDu3vAvBu4vAu5vAu6u7u8u9t10u1u2u3u4u5vAvBvCvDvEvFvGvHvIu6vAvBvCvDvEvFvGvHrAA001v2v3v",
    "4v5v6v7wAwBv8v9u10v1v2v3v4v5v6v7v8v9u20v1v2v3v4v5v6v7v8v9u30v1v2"]),
  (0x13430, [
    "EGYPTIÓHI_OGLYPH ĀJO%_rƟJO%_r%S_T > ńƙTyBOTTOMƙTyń +DyBOTTOM +Drƃ~Y MIDD<rBEG%õGMâr+DõGMâ"]),
  (0x14400, [
    "$>OLIÓHI_OGLYPH A001t2t3t4t5t6t7t8t9s10uAt1t2t3t4t5t6t7t8t9s20t1t2t3t4t5t6uAt7t8t9s30t1t2t",
    "3t4t5t6t7t8t9uAs40t1uAt2t3t4t5uAt6uAuBt7t8t9s50t1t2t3t4t5t6t7t8t9s60t1t2t3t4t5t6uAuBuCt7t8",
    "t9s70t1t2t3t4t5t6t7t8t9s80t1t2t3t4t5t6t7t8t9s90t1t2t3t4t5t6t7uAt8uAt9r100uAt1uAt2uAt3t4uAu",
    "BuCt5uAuBt6t7uAuBuCt8t9s10uAuBt1t2t3t4t5uAt6t7t8t9s20t1t2t3t4t5uAt6t7t8t9s30t1t2t3t4t5uAt6",
    "t7t8t9s40t1t2t3t4t5t6t7t8t9s50t1t2t3t4t5t6t7t8t9s60t1t2t3t4t5t6t7t8t9s70t1t2t3t4t5t6t7t8t9",
    "s80t1t2t3t4t5t6t7t8t9s90t1t2t3t4t5t6t7t8t9r200t1t2uAuBt3t4t5t6t7uAt8t9uAs10t1t2t3t4t5uAt6u",
    "At7t8t9s20t1t2t3t4t5t6t7uAt8t9s30t1t2t3t4t5t6t7t8t9s40t1t2t3t4t5t6t7t8t9s50t1t2t3t4t5t6t7t",
    "8t9s60t1t2t3t4t5t6t7uAt8t9s70t1t2t3t4t5t6t7t8t9s80t1t2t3t4t5t6t7t8t9uAs90t1t2t3t4uAt5t6t7t",
    "8t9uAr300t1t2t3t4t5t6t7t8t9uAs10t1t2t3t4t5t6t7t8t9s20t1t2t3t4t5t6t7t8t9uAs30t1t2AuBuCt3t4t",
    "5t6uAuBuCt7t8t9s40t1t2t3t4t5t6t7t8t9s50t1t2t3t4t5t6t7t8t9uAs60t1t2t3t4uAt5t6t7t8uAt9s70t1u",
    "At2t3t4t5t6t7t8t9s80t1uAt2t3 RA OR RIuAt4t5t6uAt7t8t9s90t1t2t3 Ĉt4t5t6t7t8t9r400t1t2t3t4t5",
    "t6t7t8t9s10 BEGşLOGOGRAMÏuA +D LOGOGRAMÏt1t2t3t4t5t6t7t8t9s20t1t2t3t4t5t6t7t8t9s30t1t2t3t4",
    "t5t6t7t8t9s40t1t2t3t4t5t6t7t8t9s50uAt1t2t3t4t5t6t7uAt8t9s60t1t2t3t4t5t6t7t8t9s70t1t2t3t4t5",
    "t6t7t8t9s80t1t2t3t4t5t6t7t8t9s90t1t2t3t4t5t6t7r501t2t3t4t5t6t7t8t9s10t1t2t3t4t5t6t7t8t9s20",
    "t1t2t3t4t5t6t7t8t9s30"]),
  (0x16800, [
    "BAMUM:ąSE-A NGKU^MFONmGBIE^FONmPÖMFÖPIPAEMGBIEExBAmNAA MFONl,HU+SHUETl TI* MFONmNZA MFONl,",
    "H%DA PA NJIl PÖPA NJI PIPAEMGBIEEzEMBAm=EMBGBIEEmTU =EMBAmNGÎUm=EMVEUXmM$SUAEnVEUAEĔMlõUİM",
    "l NTOQP+mKEUKEUTNDAmNK%DIl,UUl NGKU+ZEUMm~PAQm<T KUTmN*P MFAAm=EKEUPmPAS!EmGHEUA_AEmPAMS!E",
    "mMÖNGGEUAETmNZUN MEUTmU YUQ NAEmGHEUAEGHEUAEmN*P N*AlĽSAl MGBASAnEUNJOMNDEUQnOOMPUQmKAFAmP",
    "A <_AEWAmNDA <_AEWAmPETm=EMKP+mNIKAmPUPmTUAEPmLUAEPl,ONJAMl TEUTEUW+m=+YImKETmNDAÎGEUAETmK",
    "UOQmMOOMEUTl,HUMl LOM=EmFIRImROMmKPOQl,OQl =P PIEETl,HIRAEl N*Pl,HOQ NSHUT YUMl NYIT MONGK",
    "EUAEQmPAARAEmNKAARAEmUNKNOWNmNGG+m=ESImNJAMmMB$YImNYETmTEUA+l,OTl PAAMmNSHIEEm=EMmNYImKAQm",
    "NS!mVEEmLUmN+nAQmMBAQkB NSHUETmTU =EMGBIEElĽEElõT TUl LOM NTEUMmMBA =E<EmKIEEMmYEURAEmMBAA",
    "RAEmKAMmPEESHImYAFU <_AEWAmó NSHUT İMmNTIEEŪUOQnDU NJAAmGHEUGHEUAEMmPITmTU NSIEElŪT NJAQmU",
    "AEQTUl MFÖTEUAEQnBIT MBAAKETmNYI NTEUMmKEUPUQmGHEUGH+mKEUYEUXm~$AEmĚUMmVEUMmNGK%DI MVOPoGE",
    "U MBUmWUAETl,AKEUAEl *AMmMEUQmNGGUOQs ŚmMFIYAQl,UEl MBEURInONTIE+mİE=EmPUĔAMmMEUT NGGEETmF",
    "EUXmMBUOQmFEEmKEUAEMm= NJEUA+AqUQAm<TmNGGAAMnS+m=mKIQmNGOMkC NGKU^=EMBAnZAmYUMmWÎKUOQmNGG+",
    "nDEUA_EEnGKAQmŠRAEmMBEEKEETmGBAYImNYIR MKĚAQ MEUNnTU MBITmMBEUMmPIRIE+mNDOMBUmMBAA CABBAGE",
    "-TREEmKEUSHEUAEPmŠPmKEUKAQmYU MUO=EmNZEUMmMBUEmNSEUA+mMBITmYEUQmKĚAQnAAlõUXl NDIDAm*AS!EmN",
    "JUEQmTI* YUEl,UAETl NGGUA+ İMmVEUXmN$S$AQm= KEUA_ImN*AnGGUONm~PmMBIRIE+nGBASAQmNTEŃBAmTEUT",
    "EUXmNGGUMmFUEmNDEUTnSAo!QmBŃmVEUAEP+mMB_AEmRUmNJAEMmómTITUAEPmNSUOT NGOMnJEEEEmKETmNGGUm=E",
    "SImMBUAEMmLUmKUTmNJAMnGOMmWUPmNGGUEETnSOMnĮmKUOP NKAARAEmNSUNnDAMm= NSIEEmYAAmNDAPl,HUEQlõ",
    "TFONl MBIm=EMBAmMB$YImKEUSEUXmMBEUXmKEUMmMBAA PICKETmYUWOQmNJEUXmMIEEnUAEl,HIQl K+ ~WpF>IG",
    "UEmĔQmNAQmLIQmP%n+mTETkD MBUOmWAPmNJImMFONmNJIEEmLIEEmNJEUTnSHEEnGGAA=EmİMmWUA+mNGKUNlŪEl ",
    "NGKAPmKEUAETMEUNmTEUTlŪUAEl NJAPl,UEl KETmYAEM=EmKUOMl,APl MFEUTmNDEUXm=<_ImMEUTlõUAEQl Y+",
    "mNJEUAEMmKEUOT MBUAEmNGKEURImTUmŠAmNGKYEEmFEUFEUAETmNDEEmMGBOFUMm<UAEPmNDONmMONInGBEUNmPUU",
    "TmMGBIEEnFOmLUMmNSIEEPmMBAAmKWAETmNYETmTEUA+l,OTl YUWOQmKEUMmRAEMmTEEEEmNGKEUAEQmMFEUAEmNS",
    "IEETmKEUPmPIPnEU*EmNYUEm<TmNGGAAMmMFIEEmNGGWA+mYUOMmPAPmYUOPmNDAMnTEUMl,UAEl KUNmNGGEUXoKI",
    "EEmTUOTmMEUNmKUQmNSUMmTEUNm=+JETmNGGAPm<UMmNGGUOMnSHUTnJUEQmGHEUAEmKUmR+ OLDm*EmTOQmNYImRI",
    "Im<EEEmMEEEEnl,UUl MUl,HIIlŪUXl KYEEmNUl,HUl NTEEmPEEmNIl,HOQl PUQmMVOPmLOQmR+ MUCHmTImNTU",
    "UmMBAAğl,AQl FAAk^NDAPlTOONlMBEUMl~PlVOMlLOONlPAAkƭOMk^RAQlNSHUOPmDUNlPUAEl*MlNGKAlKPEUXlW",
    "UOkEõEk^NGGEUAETlPAAMlTOOlKUOPlLOMlNSHIEEmGOPl=EMlNGKEUXnOQmSHUElRIMGBAlNJEUXlPEEMkƭAAk^NG",
    "GURAElMGBAlGHEUXlNGKEUAEMmJAEMLIl=PlLOOTlNGGEEEEmDIQl*+ NTEUMkEõTk^PUMlNDAA,OFTNESSmGGUAES",
    "!^İMlYIEElGHEUNlTUAElYEUAElPOlTU=ElKEUAEkƭUA+k^TEUAEQlVEUAElWEUXl~AMlPUl*AQlŠA=ElNGEUREUTk",
    "EŪUAEQk^MGB+mBEElNZAQmKOMlGBETlTUMlKUETlYAPlNYI C<AŵlYITlMFEUQlNDIAQlPIEEQlYUEQl<UAEMlFUEl",
    "GBEUXlNGKUPlKETl=ElNGKAAMIlGHETlFAlNTUMlPEUTlYEUMlNGGEUAEmYI BETWE+mZUQlPOONlMIEElFUETlNAE",
    "lMUAElGHEUAElFU IlMVIlPUAQlNGKUMlKUTlPIETlN*PlYEUAETlNGGUPlPA PEOP<lFU CÜmOMlNJEElAlTOQlOl",
    "Il~QlPA PLUR.l*AmQlNDAA MY HOUSEkƭHIQk^YEUXlNGUAElYUA+mOQ,WIMMÉo CƃmUQnNlKEUXlPEUXlNJE^EPO",
    "CHlPUElWUElFEElVEElLUlMIlREUXmAElNGUAETlĔkƭHOnQk^FU REMEDYlNAlPIlLOQlKOlM+l=mQlTEUlKIlMONk",
    "Eųk^FAQlGHOMkF KAmUmKUmEEmREEm*EmNYIm~mRIIoEEmMEEEEm*AmNDAAnJAEMmMl,UUmHIIlĽlõUXl KYEEnETm",
    "NUAEonJUAEmYOQl,HUl YAmNS!mPEUXmNTEEmWUEmPEEmRUmNImREUXmK+mNGKWA+oGAl,HOl PUAEmFOMmWAmLInO",
    "QmKOmMB+mR+m=mMOnBAAmTETmKPAl,AMBAl VUEQ"]),
  (0x16a40, [
    "MRO:*eNGIeYOeMIMeBAeDAdÇd:PHIeÚIe!OeDAIeCHUeKEAAEeOLe=EMeN%ePAeOOfeROdËHId:THEAeEAeWAeEeKO",
    "eL$e~e!IeRIeTEK"]),
  (0x16a60, ["MRO ŦeįeĤeĥeĴeŁeľeŉeŊeŋ"]),
  (0x16a6e, [
    "MRO DäAeÈDäAaTÎSA:OZgCgQgXeÇZfCfQfXe:VZgCgQgXfEZgCgQgXfIZgCgQgXfUZgCgQgXeÇWZgCgQgXe:UIZhCh",
    "QhXfƻNGfƇUEXeËǣUEZgAWXe:UEChZhQhXgIUZiCiQiXfMZgCgQgXfKAfÚfGAfĔeËAe:YAfWAfPAfİfąfBAf=fNAf!f",
    "~fH*f*fDAfRAfN!eË!e:CAfTSAfŠfHƅfċfXAfFAfD!fÔfZA"]),
  (0x16ac0, ["TÎSA ŦfįfĤfĥfĴfŁfľfŉfŊfŋ"]),
  (0x16ad0, [
    "BASSA VAH:+NIkKAjËEj:FAkMBEkYIEkGAHkDHIIkKPAHkJOkHWAHkWAkZOkGBUkDOkCEkUWUkTOkBAkVUkYE%kPAk",
    "WAŔjÇj:OlOkUkEElkI"]),
  (0x16af0, ["BASSA VAHǋīÁŬTÍmėTÍmMID TÍmǹ-MID TÍmHIGH-ėTÍj Ǡ"]),
  (0x16b00, [
    "PA!WH HMONG VOWEL KEEBvVtIBuVtAUBvVtUBuVtEBuVtAIBvVtOOBvVtAWBvVtUABvVtOBuVtIABvVtABuVtWBuV",
    "tAABvVmCONSON$T VAUvNTSAUv~Uv!UvN~UvRAUvNKAUvQ!UvYAUvH~Uv=UvÔUvNÔUvHNAUvPL!UvNċUwAUvAUvXAU",
    "vCAUlÏ CIM TUBq,Oq KESrÚVq,UAMq HOMr*UMlÊVOS THOMrS!B CEEBlǔIM ëEMlÊVOS THIABqFEEMmXYEEM N",
    "TXIVsRHOsTOVsFAIBmVOSõEVmMEEJ,UABmVOS NRUAmIB YAMmXAUSlǔIM TSOV ROG"]),
  (0x16b50, ["PA!WH HMONG ŦmįmĤmĥmĴmŁmľmŉmŊmŋ"]),
  (0x16b5b, ["PA!WH HMONG NƿųSnĩçSnƿų úSnĩMILLŖSoç MILLŖSnƿų BILLŖSnĩTRILLŖS"]),
  (0x16b63, [
    "PA!WH HMONGÊVOS LUBmXYOOmHLImŹD-S*G^HLImZWJ ċJmHNUBmNQIGmXIABmNTUJmAVmTXHEEJ CEEVmMEEJ TSE",
    "EBm*UmLOSmMUSlǔIM !IS LUS NTOG NTOGpCUAM TSHOOJpTXWVt CHWVpPUB DAWBpNRES TOS"]),
  (0x16b7d, [
    "PA!WH HMONG CL$ÊTSHEEJqYEEGqLISq~UJqXYOOJqKOOq!WJqMUASqTHOJrSABqąBqÚBq!MqVAJqFAJqYAJqTSWBq",
    "KWMqVWJ"]),
  (0x16e40, [
    "MEDEFAIDR%|Mkŷk|VlWl>IUlZlKPlPlTlGlFlIlKkƌk|JlElBlClUlYUlLlQlHPlNYlXlDlOElNlRlOkƌIk|Yk;MkŎ",
    "k;VlWl>IUlZlKPlPlTlGlFlIlKkƂk;JlElBlClUlYUlLlQlHPlNYlXlDlOElNlRlOkƂIk;YjşŦkįkĤkĥkĴkŁkľkŉkŊ",
    "kŋkNƿųlĩE<V+mTWELVEmŹƎmƀƎmFIFƎlǿƎlƿğƎlĩĈE+mŶƎkį Ǭ^ƚkĤ Ǭ^ƚkĥ Ǭ^ƚj%ǋ=jşǠj%ŢAIVAjşEXC~=ĳ OH"]),
  (0x16f00, [
    "MIAO:PAfBAfYI PAfP~f=fM!eÇRÔÕ=e:FAfVAgFAf*fDAfYI ƅi*fƅfŔfNAg!fYI NNAeÇRÔÕNAe:NNAh!f~fLYAg!",
    "gHYAfTL!fDL!fTLHYAfDLHYAfKAfGAfYI KAfQAgGAfĔfNŠeÇRÔÕĔe:!fXAfŠfGH!fTSSAfDZZAfİfNY!fTS!fDZ!f",
    "YI TS!iDZ!fREƚÀTS!eË!fSAe:Z!gS!fTSAfDZAfYI TSAeËAe:ZAgSAgZAhSAeÇRÔÕZZAe:ZZYAhSYAfWAeÇHe:H!",
    "fBRIeËYIe:DZYIfTEgSEfRTE"]),
  (0x16f4f, [
    "MIAOǔONSON$T MODIFI_Ďe:NAS.IZìeÊASPIRìfREƚÀVOICÉjASPIRìeûAgAgHHf$fÎfOgOfWOgfEf+gGfOEYfIgAg",
    "$gÎgOgEgIgUfÉfUgAg$gÎgUgEIfŃfYgIfAEhEf_RfRĊDÀ_Rf_fRĊDÀ_fAIfEIfAUfOUfNgGfUOGfYUIfOGg_fVWfIG",
    "fEAfŖGfUI"]),
  (0x16f8f, ["MIAO TÙàhń àhŒgÍĬe:TÍ-2i3i4i5i6i7i8fREƚÀTÍ-1m2m4m5m6m8"]),
  (0x16fe0, ["TÎUT IÛŗaNUSHU IÛŗaıCH%ES^ăÏhIÛŗaKHIT$œ,ǚFILL_"]),
  (0x16ff0, ["VIETNAMES^Ǭ^READÉÏ CAtN!Y"]),
  (0x18800, [
    "TÎUTǋPONâ-001m2m3m4m5m6m7m8m9l10m1m2m3m4m5m6m7m8m9l20m1m2m3m4m5m6m7m8m9l30m1m2m3m4m5m6m7m8",
    "m9l40m1m2m3m4m5m6m7m8m9l50m1m2m3m4m5m6m7m8m9l60m1m2m3m4m5m6m7m8m9l70m1m2m3m4m5m6m7m8m9l80m",
    "1m2m3m4m5m6m7m8m9l90m1m2m3m4m5m6m7m8m9k100m1m2m3m4m5m6m7m8m9l10m1m2m3m4m5m6m7m8m9jŌ0k1k2k3",
    "k4k5k6k7k8k9j-130m1m2m3m4m5m6m7m8m9l40m1m2m3m4m5m6m7m8m9l50m1m2m3m4m5m6m7m8m9l60m1m2m3m4m5",
    "m6m7m8m9l70m1m2m3m4m5m6m7m8m9l80m1m2m3m4m5m6m7m8m9l90m1m2m3m4m5m6m7m8m9k200m1m2m3m4m5m6m7m",
    "8m9l10m1m2m3m4m5m6m7m8m9l20m1m2m3m4m5m6m7m8m9l30m1m2m3m4m5m6m7m8m9l40m1m2m3m4m5m6m7m8m9l50",
    "m1m2m3m4m5m6m7m8m9l60m1m2m3m4m5m6m7m8m9l70m1m2m3m4m5m6m7m8m9l80m1m2m3m4m5m6m7m8m9l90m1m2m3",
    "m4m5m6m7m8m9k300m1m2m3m4m5m6m7m8m9l10m1m2m3m4m5m6m7m8m9l20m1m2m3m4m5m6m7m8m9l30m1m2m3m4m5m",
    "6m7m8m9l40m1m2m3m4m5m6m7m8m9l50m1m2m3m4m5m6m7m8m9l60m1m2m3m4m5m6m7m8m9l70m1m2m3m4m5m6m7m8m",
    "9l80m1m2m3m4m5m6m7m8m9l90m1m2m3m4m5m6m7m8m9k400m1m2m3m4m5m6m7m8m9l10m1m2m3m4m5m6m7m8m9l20m",
    "1m2m3m4m5m6m7m8m9l30m1m2m3m4m5m6m7m8m9l40m1m2m3m4m5m6m7m8m9l50m1m2m3m4m5m6m7m8m9l60m1m2m3m",
    "4m5m6m7m8m9l70m1m2m3m4m5m6m7m8m9l80m1m2m3m4m5m6m7m8m9l90m1m2m3m4m5m6m7m8m9k500m1m2m3m4m5m6",
    "m7m8m9l10m1m2m3m4m5m6m7m8m9l20m1m2m3m4m5m6m7m8m9l30m1m2m3m4m5m6m7m8m9l40m1m2m3m4m5m6m7m8m9",
    "l50m1m2m3m4m5m6m7m8m9l60m1m2m3m4m5m6m7m8m9l70m1m2m3m4m5m6m7m8m9l80m1m2m3m4m5m6m7m8m9l90m1m",
    "2m3m4m5m6m7m8m9k600m1m2m3m4m5m6m7m8m9l10m1m2m3m4m5m6m7m8m9l20m1m2m3m4m5m6m7m8m9l30m1m2m3m4",
    "m5m6m7m8m9l40m1m2m3m4m5m6m7m8m9l50m1m2m3m4m5m6m7m8m9l60m1m2m3m4m5m6m7m8m9l70m1m2m3m4m5m6m7",
    "m8m9l80m1m2m3m4m5m6m7m8m9l90m1m2m3m4m5m6m7m8m9k700m1m2m3m4m5m6m7m8m9l10m1m2m3m4m5m6m7m8m9l",
    "20m1m2m3m4m5m6m7m8m9l30m1m2m3m4m5m6m7m8m9l40m1m2m3m4m5m6m7m8m9l50m1m2m3m4m5m6m7m8m9l60m1m2",
    "m3m4m5m6m7m8"]),
  (0x1aff0, ["KA*K$A:M%NÓTÍ-2o3o4o5"]),
  (0x1aff5, ["KA*K$A:M%NÓTÍ-7o8lNAS.IZÀTÍ-1v2v3v4v5"]),
  (0x1affd, ["KA*K$A:M%NÓNAS.IZÀTÍ-7v8"]),
  (0x1b000, [
    "KA*K$AÇRÔÕEaHIRAG$AÇRÔÕYEb+*IG$AÇ-1j2j3jWOh:I-1k2k3k4iU-1k2k3k4k5iE-2k3k4k5k6iO-1k2k3iKA-1",
    "l2l3l4l5l6l7l8l9l10m1lKEjI-1l2l3l4l5l6l7l8jU-1l2l3l4l5l6l7jE-1l2l3l4l5l6jO-1l2l3lKIfŝƤA-1j",
    "2j3j4j5j6j7j8hI-1j2j3j4j5j6hU-1j2j3j4j5j6j7j8hE-1j2j3j4j5hO-1j2j3j4j5j6j7f$A:*-1k2k3k4iTI-",
    "1l2l3l4l5l6l7jU-1l2l3l4lTOjE-1l2l3l4l5l6l7l8l9jO-1l2l3l4l5l6lRAiNA-1l2l3l4l5l6l7l8l9jI-1l2",
    "l3l4l5l6l7lTEjU-1l2l3jE-1l2l3l4l5l6lKOjO-1l2l3l4l5i!-1k2k3k4k5k6k7k8k9k10l1iHI-1l2l3l4l5l6",
    "l7jU-1l2l3jE-1l2l3l4l5l6l7jO-1l2l3l4l5l6l7l8i=-1k2k3k4k5k6k7iMI-1l2l3l4l5l6l7jU-1l2l3l4jE-",
    "1l2l=jO-1l2l3l4l5l6iYA-1l2l3l4l5lYOjU-1l2l3l4jO-1l2l3l4l5l6iRA-1l2l3l4jI-1l2l3l4l5l6l7jU-1",
    "l2l3l4l5l6jE-1l2l3l4jO-1l2l3l4l5l6iWA-1l2l3l4l5jI-1l2l3l4l5jE-1l2l3l4jO-1l2l3l4l5l6l7iN-MU",
    "-MO-1q2bIRAG$AÇRÔÕWUaKA*K$AÇRÔÕYIlEkWU"]),
  (0x1b150, ["HIRAGŝūWIiEiO"]),
  (0x1b164, ["KA*KŝūWIhEhOgN"]),
  (0x1bc00, [
    "DUPLOY$:HiXiPiTiFiKiLiBiDiViGiRiP NiD,iF NiK MiR,iTHhËLOÓDHh:DHiKKhËLOÓJh:HLiLHiRHiMiNiJhË",
    "h:M NiN MiJ MhË Jh:M&öiN&öiJ&ökǅ%SIDEÐŒhË&öiƓh:M,iN,iJ,iƬiM N,iN M,iJ M,hË J,h:J,&öj Nl,hË",
    " Tk RjPk Rh:T,j R,iWjHj RhË NjMh:K R,iG R,hË Kk RhÇhËLOÓOWh:OAjhÇOUh:IiEiIEhËǣIh:UIiEEhËLO",
    "ÓEHh:ROM$IÓIhËLOÓEEh:ƇIiYEiUiEUiXWiU NiƇUiROM$IÓUiUHhËLOÓUh:OOHjWjUiWAjOjIjEIjOWiNASÆUmOmI",
    "mAiĢNş$lAMhËLOÓ+l$lONh:VOC.ÕM"]),
  (0x1bc70, [
    "DUPLOYÓAFFIX ÃƟSEC$TnMID ƟSEC$TnÄƟSEC$TnėĀSEC$TnMID ĀSEC$TnŬĀSEC$Tn>*ëDõC$TpCHÀǢTO-àõC$TsT",
    "ÎâsŅs^ăsI ăsTÎǲă"]),
  (0x1bc80, ["DUPLOYÓAFFIX ŬęoTĸęoũoƇũoöoøoķoWAVEoƮ."]),
  (0x1bc90, ["DUPLOYÓAFFIX ėęoTĸęoũoƇũoönǹȈnėķoWAVEoƮ.oÅ"]),
  (0x1bc9c, ["DUPLOY$ÊŸǊgÓTHICKËE<CTORhĘÏhPǷ CH%OOK ǠaSĞTHÌƚ>:ƃ~Ph CONT%UÁƃ~PiƈřEPiUPřEP"]),
  (0x1cf00, [
    "ZNAM+NYǋīÉÏ GORAZDO NIZKO, KRYZHEM ÖĒmNIZKO, KRYZHEM ÖĒmTSA* ÖĒmGORAZDO NIZKO ÖĒmNIZKO ÖĒl",
    ",REDN^ÖĒl ȅO POVYSH^ÖĒmPOVYSH^ÖĒmVYSOKO ÖĒmȅO POVYSHƭ KHOKHLOM ÖĒmPOVYSHƭ KHOKHLOM ÖĒmVYSO",
    "KO, KHOKHLOM ÖĒmGORAZDO NIZKO, KRYZHEM ÖàmNIZKO, KRYZHEM ÖàmTSA* ÖàmGORAZDO NIZKO ÖàmNIZKO",
    " Öàl,REDN^Öàl ȅO POVYSH^ÖàmPOVYSH^ÖàmVYSOKO ÖàmȅO POVYSHƭ KHOKHLOM ÖàmPOVYSHƭ KHOKHLOM Öàm",
    "VYSOKO, KHOKHLOM ÖàmTSA*, KRYZHEMmȅO POVYSHƭ KRYZHEMlřR$NO ȅO POVYSHEl POVYSHƭ KRYZHEMsEřR",
    "$NOmVYSOKO, KRYZHEMmȅO POVYSHEřR$NOmGORAZDO VYSOKOmZELOmONmRAVNOmTIÚYAmBORZAYAmUDARKAmPODŵ",
    "TKAmLOMKAmKUPNAYAnACHKAmZEVOKl,KOBAl RAZSEKAmKRYZH ÖĒ"]),
  (0x1cf30, [
    "ZNAM+NYǋīÁTONÆRÎEÏ MRACHNOs,VETLOs TRESVETLOjÉÏ ZAD_ZHKAmDEMESTV+NY ZAD_ZHKAmOTSECHKAmPODÔ",
    "SHIEtĂƮƛmÔSHKAr POLNAYAmOB~CHKOl,OROCHYA NOZHKAl TOCHKAmDVOETOCHIEjÁ>*CHÁĀOMETjÉÏ CURVÀOME",
    "TmKRYZHjÁēTONÆRÎ^%DIC>ORh PRIZNAK MODIFIþ<VEL-2zEL-3xDIREŜ FLIPxKRYZHxROG"]),
  (0x1cf50, [
    "ZNAM+NY NEUM^KRYUKs TIKHYnĚAKLITnDVA V ëLNUnKLYUCHnZ$OZHEKmƭńITSAs, OCHKOMm^ĢEVODKAu NEPOS",
    "TOƕYAmƭńITSA&SOROCHYA NOZHKAm^ëLYUSTKAnP.KAnZAPYA*YAnGOLUBCHIK BORZYxTIKHYxMRACHNYw,VETLYw",
    " TRESVETLYnVRAKHIYA ĭS*YAwMRACHNAYAv,VET~YAv TRESVET~YAwKLYUëVAYA ĭS*YAzUëVAYA MRACHNAYAzU",
    "ëVAYA,VET~YAzUëVAYA TRESVET~YAnÈZAPYA*YAnŰëLYUSTKAnD_BITSAnÚMILOnÔSHKAnPODÔSHIEmƭKAMEYTSA ",
    "MRACHNAYAv,VET~YAv TRESVET~YAxIÚYAm^DEMESTV+NY KLYUCHmƭKAMEYTSA KLYUëVAYA,VET~YAzUCH+EPOST",
    "OƕYAzUëVAYA TIÚYAwDVOEëLNAYA ĭS*YAzEëLNAYA,VET~YAzEëLNAYA NEPOSTOƕYAzEëLNAYA KLYUëVAYAnLOZ",
    "HITIEuƭ ZAPY>OYu^ZAKRYTOEuƭ KRYZHEMm^KRYZHnROGnFI*nKOBY~nZMEYTSAmEř>YAr, ZAPY>OYtKRYZHEMtZ",
    "APY>OY I KRYZHEMtKRYZHEM I ZAPY>OYr ZAKRY*YAzA, ZAPY>OYr, ROGOMtDVUMYA ZAPY>YMItZAPY>OY I ",
    "PODÔSHIEMm^POLKULIZMYmEř>YA NEPOSTOƕYAoRE~ ĭS*YAsMRACHNOTIÚYAsKRYZHEVAYAsPOLUPOVODNAYAuVOD",
    "NAYAsNEPOSTOƕYAsKLYUëPOVODNAYAwCH+EPOSTOƕYAsTIÚYA PUTNAYAsDVOEëLNAYAzOKRYZHEVAYAzOPOVODNAY",
    "AzAYA KLYUëVAYAzOPOVODNAYA KLYUëVAYAsGROMNAYA&SÉáZAPYA*YAwOPOVODNAYA&SÉáZAPYA*YAwNAYAwOPOV",
    "ODNAYAzVODNAYA&ÈZAPYA*YAxKRYZHEVAYAzYZHEVAYA POVODNAYAm^MECHIKt POVODNYuKLYUëVOYzPOVODNYyC",
    "H+EPOSTOY$NYmEřRE~ TRYASOG~SNAYAyPOVODNAYAySTRELNAYAm^OSOKAs,VET~YAs TRESVET~YAtKRYUKOVAYA",
    ",VET~YAuLYUëVAYA,VET~YAzAYA NEPOSTOƕYAmEřRE~ KRYUKOVAYAzAYA POVODNAYAzAYA GROMNAYA&SÉáZAPY",
    "A*YAzAYA GROMOPOVODNAYA&SÉáZAPYA*YAzAYA GROMNAYAzAYA GROMOPOVODNAYAzAYA GROMOPOVODNAYA&ÈZA",
    "PYA*YAzAYA GROMOKRYZHEVAYAzAYA GROMOKRYZHEVAYA POVODNAYAzAYA TRYASKAm^KUFIS=nOB~KOnDUDAnNE",
    "MKAnPAUK"])]

end Monomorph.Text.CharacterName
