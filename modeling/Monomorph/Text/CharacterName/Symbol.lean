/-!
Shortened names of the characters from U+2000 to U+2FFF: punctuation, signs of mathematics and
technology, dingbats, patterns for the blind, some more letters, and the parts of ideographs.
-/

namespace Monomorph.Text.CharacterName

/-- Runs of these characters: the first one, and the text of their shortened names in pieces. -/
def symbolRuns : List (Nat × List String) := [
  (0x2000, [
    "+ QUADaEM QUADa+,PACEaEM,PACEaƋ-Ģ-EM,PACEaƀ-Ģ-EM,PACEaSIX-Ģ-EM,PACEaFIGƹSPACEaPǷ,PACEaTH%,",
    "PACEa!IR,PACEaZ_O WIDTH,PACEj NON-JO%_kJO%_aǢTO-àÏaǶTO-ĒÏaHYPH+aNON-BREAKÁHYPH+aFIGƹDASHa+",
    " DASHaEM DASHaƟüaÈĀķbėķaĒžáQUOTŗaàžáQUOTŗaSÉáǹ-9 QUOTŗdHIGH-ȊSED-9 QUOTŗaÃÈQUOTŗaÄÈQUOTŗaÈ",
    "ǹ-9 QUOTŗbHIGH-ȊSED-9 QUOTŗaDAGG_aÈDAGG_aBUL<TaȒƉBUL<TaÙƲ<AD_aæƲ<AD_aƟELLIPSISaHYPH+ì Žaķõ",
    "Ě>ORaĚAGRčõĚ>ORaǢTO-ÄEMBEDDÉaǶTO-ÃEMBEDDÉaPOP DIREŜÆƚ>TÉaǢTO-ÄƃRIDEaǶTO-ÃƃRIDEaNďNO-BREAK,",
    "PACEaPþMIL<ÂaĢų úÂaPRIMEaÈPRIMEaǈáPRIMEaŰPRIMEbÈPRIMEbǈáPRIMEaCARETaSÉáǢ÷ƯQUOTŗdǶ÷ƯQUOTŗaR",
    "EF_+CEÏaÈEXCóŗa%ÛROBÎaƃķaUND_TIEaÔRACơTIEaCARET %S_ĳ ŽaASÛISMaHYPH+ BUL<TaFRAŜ,~SHaĒǓï&QUI",
    "LLaàǓï&QUILLaÈQUESĳÏaQUESĳ EXCóŗaEXC~=ĳ QUESĳÏaTIRONI$ÊETaŰPILCROWÂaîíBUL<TbĵBUL<TaėǙaŰSEM",
    "ICǤaCLOS^UPaæǙS .IGNÀƮÜYađM_CIÆM%UƪaSWŃ DASHaƖUND_TIEaFēPǷÏaÿƲPǷaQUADRUPáPRIMEaŭƲPǷaťƲPǷaæ",
    "ƲPǷaŭöÏaǾÀǊaTRICǤaĀŭöSaħ ěƢSPACEaWORD JO%_aFUNŜ APPLICìa%VISIBáȕSg<õĚ>ORgáǳ"]),
  (0x2066, [
    "ǢTO-ÄISOL>EaǶTO-ÃISOL>EaFIRSTřRONG ISOL>EaPOP DIREŜÆISOL>Ea%HIBIT,YMMETRIC,WAPPÉaACTIV>ƭYM",
    "METRIC,WAPPÉa%HIBIT Ə ƚĄPÉaACTIV>^Ə ƚĄPÉaNìÆDIGITĄPESbOM%ÆDIGITĄPESaSǱSǚZ_Oeƨ;I"]),
  (0x2074, [
    "SǱSǚƀeǑeSIXfEV+eĈeŶeǳÂeM%USeƽƪeÃǏSISeÄǏSISeƨ;NbUBSǚZ_OfÍfČfƋfƀfǑfSIXgEV+fĈfŶfǳÂfM%USfƽƪfÃǏ",
    "SISfÄǏSIS"]),
  (0x2090, ["ƨƒSCRIPTƂi;EjOjXiŎCHWAi;HjKjLjMjNjPiŎi;T"]),
  (0x20a0, [
    "EURO-CURR+CYÂaCǤÂbRUZEIROÂaFR+CH FR$CÂaLIRAÂaMILLÂaNAIRAÂaPESE*ÂaRUPEEÂaWONÂaNEWŪQELÂaDONG",
    "ÂaEUROÂaKIPÂaTUGRIKÂaDRACH=ÂaG_MÓP+NYÂaPESOÂaGUAR$IÂaAUSTR.ÂaHRYVNIAÂaCEDIÂaLIVR^TOURNOIƪa",
    "SPESMILOÂaĮGEÂa%DIÓRUPEEÂaTURKĆ LIRAÂaNORDICÏÂaM$>ÂaRUB<Âa~RIÂaBITCO%ÂaSOMÂ"]),
  (0x20d0, [
    "đīÁÃ!RPOÖŒdÄ!RPOÖŒdƇĀǒƃ~YcÉ,ǣĀǒƃ~YcÁ$ňǁWIS^ďŒcƵǁWIS^ďŒcÁÃďŒdÄďŒdŻƃ~YcƵǁWIS^Żƃ~YcÁ$ňǁWIS^Żƃ",
    "~Ydÿǥdŭǥd+CLOSÉȈjģiÁƼjűBŀS~SHdÃÄďŒd+CLOSÉ,CRE+iÁKEYCAPjUPWŞ ÷ĕdȊSƭOLIDUS ƃ~YdÈƮ.ȑƃ~Yd$NUIT",
    "YÒdǈáUND_ödWID^BRIDG^Œdíďƃ~YdƇĘ,OLIDUS ƃ~YdĵǺƈWǩdíǺƈWǩdÃÅĬdÄÅĬdǙã"]),
  (0x2100, [
    "ACCĊT OFbDDRESSÀĨTHEƒJECTaĘ-STRUCKǮCaDEGRE^CELSIUSañR^ķÒaCAR^OFcDA UNAaEULþCONST$TaSCRUP<a",
    "DEGRE^FAHR+HEITaSCRIPTßGbǚŤHaĜ-ȖŤHaĘ-STRUCKǮHaƆCK CONST$TlĲæPIaSǚŤIaĜ-ȖŤIaSǚŤLbCRIPTßLaL B",
    "ĎÒaĘ-STRUCKǮNaNUM_OÂaSĊD RECORDƵOPYàbǚŤPaĘ-STRUCKǮPjQaSǚŤRaĜ-ȖŤRaĘ-STRUCKǮRaPRESCRIPĳ *KEa",
    "RESPONSEaS_VICEÏaTE<PHÍÂbRADEÏÂaŵSIC<aĘ-STRUCKǮZaĊCEÂaOHMÂaƖOHMÂaĜ-ȖŤZaŏǫ;IO*aKELV%ÂaÎSTRO",
    "MÂaSǚŤBaĜ-ȖŤCaESTIěEDÒaSCRIPTßEbǚŤEdFaŏŤFaSǚŤMbCRIPTßOaĖFÒaBETÒaGIMELÒaDĖTÒa%ƚì,OURCEaƐŤQa",
    "FACSIMI<ÂaĘ-STRUCKßPIjGAM=iǮGAM=jPIi N-ARY,UM=ĳaŏS$S-S_IFǮGkLaŰS$S-S_IFǮLaŏS$S-S_IFǮYaĘ-ST",
    "RUCK IT.ICǮDoßDpEpIpJaĭĢĦķaŏAMĢSäaĢÂaAKTIESELSKABaŏSMÜ FaSYMBOL ĝ,A=RIT$,OURCEaVULGAR FRAŜ",
    " ÍğTHmÙN%THnTâHnŹDmæŹDSmÙFIFTHmæFIFTHSmÿFIFTHSmŭFIFTHSmÍżTHmǑżTHSmÙĈHmÿĈHSmťĈHSlğ ĈHSaFRAŜ",
    " NUM_>OR ÍaROMÓNUM_ÆÍjČjƋjƀjǑi.żjğiÆĈjŶi.ųiÆE<V+jTWELVEjFIFTYjÙçjťçjÙúaSMÜ ROMÓNUM_ÆÍnČnƋn",
    "ƀnǑm.żnğmÆĈnŶm.ųmÆE<V+nTWELVEnFIFTYnÙçnťçnÙúaROMÓNUM_ÆÙú C Djťúi.ų úiÆŰÙçaƨ;ŰCaROMÓNUM_.ż ",
    "L>^ƚiÆFIFĦEARLY ƚnújÙç úaVULGAR FRAŜ Z_O ŹDSaŏĤbĥ"]),
  (0x2190, [
    "íÅaĻÅaŐaĶÅaÃÄÅaôćÅaǖǇÅbƜÅaSǆƜÅcǇÅaíďĐaŐ ĐaíWAŲÅaĵWAŲÅaíæHEADÀÅaĻæHEADÀÅaĵæHEADÀÅaĶæHEADÀÅa",
    "íŇŅaŐ&ŅaíďFROMĎaĻďFROMĎaŐ FROMĎaĶďFROMĎaôćŇBASEaíÅśaŐśaíŇLOOPaŐ&LOOPaÃÄWAŲÅcďĐaĶZIGZAG ÅaĻ",
    "ŇTIP ĒWǩgàWǩaĶŇTIP ĒWǩgàWǩaŐ&CORNþƈWǩaĶŇCORNþĒWǩa$ňǁWIS^ńõMIűÅaCǁWIS^ńõMIűÅaǖǇďĨȇĎaíďTOĎĲŐ",
    " TOĎa$ňǁWIS^ġ űÅaCǁWIS^ġ űÅaíǺUPWǩcƈWǩaĻǺàWǩcĒWǩaĵǺUPWǩcƈWǩaĶǺàWǩcĒWǩaŐĲíÅaĻďíØĶÅaíďȐŐbPAI",
    "RÀÅSaĻPAIRÀÅSaĵPAIRÀÅSaĶPAIRÀÅSaí!RPOÖȐĵ!RPOONaĵ!RPOÖȐí!RPOONaíÈďĐaÃÄÈďĐaĵÈďĐaíÈÅaĻÈÅaĵÈÅa",
    "ĶÈÅaÃÄÈÅaôćÈÅaǖǇÈÅbƜÈÅaSǆƜÈÅcǇÈÅaíǈáÅaĵǈáÅaíSQUIGGáÅaĵSQUIGGáÅaĻŇĘȆaĶŇĘȆaíDASHÀÅaĻDASHÀÅaĵ",
    "DASHÀÅaĶDASHÀÅaíďTOĎaŐ TOĎaí×ÅaĻ×Åaĵ×ÅaĶ×ÅaĻ×ďFROMĎdÖPEDEST.j*ǍƟülĀücÈÅdďÖPEDEST.aĵ×ďFROM ",
    "WÜaǖǇďĨCORN_aSǆƜďĨCORN_aôć×ÅaÄďƴœȈaĶďíØĻÅaÿŐSaíŇƮƛaŐ&ƮƛaÃÄŇƮƛaíŇÈƮƛaŐ&ÈƮƛaÃÄŇÈƮƛaíġȔÅaĵġȔÅ",
    "aÃÄġȔÅaĝ ÜađP<MâaĚTIÆDIFF_âI.aTH_^EXISTSeDOES ǟEXISTaEMPTYõTa%CREMâaNAB~aE<MǲOFaǟÓE<MǲOFaS",
    "MÜ E<MǲOFaCON*%S AS MEMB_aDOES ǟCON*şAS MEMB_aSMÜ CON*%S AS MEMB_a+D ØĭOFaN-ARY ĭDUCTgCOĭD",
    "UCTf,UM=ĳaM%UƪdS-OR-ǳÂaƲǳaDIVISŖ,~SHaSET M%USaǙ ǯaŻǯaBUL<T ǯaSŕ^ROOTaCUB^ROOTaƀTH ROOTaĭPO",
    "RĳȚa%F%ITYaÄÎ<aÎ<aMEASURÀÎ<aSPH_ǃÎ<aDIVIDESbOES ǟDIVIDEaĚ.<L TOaǟĚ.<L TOaLOGǃäeORa%ÛSEŜaUN",
    "Ŗa%TEGR.aÈ%TEGR.aǈá%TEGR.aCONTOUR %TEGR.aSURò %TEGR.aVOLUM^%TEGR.aCǁWIS^%TEGR.gCONTOUR %TE",
    "GR.a$ňǁWIS^CONTOUR %TEGR.aTH_EĝEaBECAUSEaR>IOaĭPORĳaƲM%USaEXCESSaGEOMETRÕĭPORĳaHOMOTHEňaȃǯ",
    "aŰƍaƖ~ZY,aSǴWAVEaWRE>H ĭDUCTaǟƍaM%US ƍaASYMPTOňÜY ĹaǟASYMPTOňÜY ĹaAPĭXIěELY ĹkBUT ǟACTUÜY ",
    "ĹaNEITHþAPĭXIěELY NOR ACTUÜY Ĺa.MOST Ĺaǟ.MOST Ĺa.MOSTȉÆOR ĹaǈáƍaÜ ĹaEQUIV.ǲTOaGEOMETRICÜYȉ",
    "IV.ǲTOaDIFF_+C^BETWE+aAPĭAëS TH^LIMITaGEOMETRICÜY ĹaAPĭXIěELY Ĺ OR TH^I=G^OFaI=G^ØOR APĭXI",
    "ěELY ĹaCǤ ƽSaƽS CǤaŻşĹbĹaCORRESPONDS TOaESTIěESbQUIÎƉTOaS*R ƽSaDEL* ĹaĹ BY DEF%IĳaMEASURÀB",
    "YaQUESĳÀĹaǟĹaID+ňȚaǟID+ňȚaSTRICTLYȉIV.ǲTOaƠ OR Ĺaƣ OR ĹaƠĲĹaƣĲĹaƠ BUT ǟĹaƣ BUT ǟĹaMUCH Ơfƣ",
    "aBETWE+aNOTȉIV.ǲTOaǟƠbƣaNEITHþƠ NOR Ĺgƣ NOR ĹaƠ ORȉIV.ǲTOaƣ ORȉIV.ǲTOaNEITHþƠ NORȉIV.ǲTOgƣ",
    " NORȉIV.ǲTOaƠ OR ƣaƣ OR ƠaNEITHþƠ NOR ƣgƣ NOR ƠaPRECEDESaSUCCEEDSaPRECEDES OR ĹaSUCCEEDS O",
    "R ĹaPRECEDES ORȉIV.ǲTOaSUCCEEDS ORȉIV.ǲTOaDOES ǟPRECEDEgSUCCEEDaSUBSET OFbǱSET OFaǟAƒSET O",
    "Fc,ǱSET OFaSUBSET ØOR ĹbǱSET ØOR ĹaNEITHþAƒSET ØNOR Ĺh,ǱSET ØNOR ĹaSUBSET OF&ǟĹbǱSET OF&ǟĹ",
    "aMULTISETi MULTIPLICìjUNŖaSŕ^I=G^OFdORIG%ÆOFdI=G^ØOR ĹdORIG%ÆØOR ĹdCAPeUPaøD ǳdM%USdȕSdDIV",
    "ISŖ,~SHdƲǯdŻǯdǙ ǯdƽSdDASHaSŕÀǳdM%USdȕSdƲǯaÄTŀaÃTŀaćTŀaôTŀaASS_ĳaMODELSaTRUEaĝCESaǈáĀü ÄTUR",
    "NSTI<aÈĀü ÈÄTURNSTI<aDOES ǟĭVEaǟTRUEaDOES ǟĝCEaNEG>ÀÈĀü ÈÄTURNSTI<aPRECEDES UNDþRE~ĳaSUCCE",
    "EDS UNDþRE~ĳaNORȅƒGROôOFaCON*%S AS NORȅƒGROUPaNORȅƒGROôØOR ĹaCON*%S AS NORȅƒGROôOR ĹaORIG%",
    "ÆOFaI=G^OFaMULTI=PaH_MITIÓCONJUG>^ěRIXa%ÛC.>EaXORaNäbORaÄƯņARCbĕaN-ARY LOGǃäkORg%ÛSEŜgUNŖa",
    "Ƽ ǯaƲǯaS*R ǯaDIVISIÖȕSaBOWTIEaÃNORMÆFACTORõMIDIRECT ĭDUCTaÄNORMÆFACTORõMIDIRECT ĭDUCTaĒõMI",
    "DIRECT ĭDUCTaàõMIDIRECT ĭDUCTaŰȃƽSaƶY LOGǃORhäaĘƒSETb,ǱSETaÈ%ÛSEŜbUNŖaPITCHĝKaƽÐĚ.<L TOaƠ&",
    "öaƣ&öaŵY MUCH ƠiƣaƠ Ĺ OR ƣaƣ Ĺ OR ƠaĹ OR ƠfƣfPRECEDESe,UCCEEDSaDOES ǟPRECED^OR ƽgSUCCEÀOR ",
    "ƽaNOTǓI=G^ØOR ĹeORIG%ÆØOR ĹaSŕ^I=G^ØOR ǟĹdORIG%ÆØOR ǟĹaƠ BUT NOTȉIV.ǲTOaƣ BUT NOTȉIV.ǲTOaP",
    "RECEDES BUT NOTȉIV.ǲTOaSUCCEEDS BUT NOTȉIV.ǲTOaǟNORȅƒGROôOFaDOES ǟCON*şAS NORȅƒGROUPaǟNORȅ",
    "ƒGROôØOR ĹaDOES ǟCON*şAS NORȅƒGROôOR ƽaĀELLIPSISaMIDǒƟELLIPSISaôÄǡÆELLIPSISaćÄǡÆELLIPSISaE",
    "<MǲOF&ƇǞƛhĀü > +D ØǞƛaSMÜ E<MǲOF&Āü > +D ØǞƛaE<MǲOFſg&ƃüaSMÜ E<MǲOF&ƃüaE<MǲOF&UND_ühæǞƛSaC",
    "ON*%S&ƇǞƛhĀü > +D ØǞƛaSMÜ CON*%S&Āü > +D ØǞƛaCON*%S&ƃüaSMÜ CON*%S&ƃüaZ NO*ĳ BAG MEMB_SHIPa",
    "DIAMEÛÂaE<CTRÕÅaHOUSEaôšaćšaĭJECTIVEaĢSPECTIVEaWAVY ķaÃCEILÉaÄCEILÉaÃFLOORaÄFLOORaBOTTOM Ä",
    "CROPhÃCROPań ÄCROPcÃCROPaŰNOTÂaSŕ^LOZ+GEaARCaSEGMâcCTORaTE<PHÙRECORD_aPOSIĳ %DIC>ORaVIEWDA",
    "*ģaP~C^Ø%ÛESTÂaŏNOTÂaW>CHaHOURG~SSań ÃCORN_cÄCORN_aBOTTOM ÃCORN_hÄCORN_ań ā%TEGR.aBOTTOM ā",
    "%TEGR.aFROWNaSMI<aôš BETWE+ æƟüSaOPĳ KEYa_AS^ĨTH^àaX şA RECTƯBOXaKEYBOŞaǢ÷ƯïaǶ÷Ưïa_AS^ĨTH^",
    "ĒaB+Z+^ǀaCYL%DRICITYaÜ ARĊD-ĭFI<aSYMMETRYaTOTÆRUNOUTaDIM+SIÖORIG%aCONǃ*ĢaSLOPEaCĊÛBOREdS%K",
    "aAPL FUNŜ.ŢI-BEAMjÒ,QUĆ QUADjŢQUAD ƽpDIVIDEpƼpJOToȈjÒȈřI<jŢűJOTjÒ,~SHĎjŢBŀS~SHĎkQUAD,~SHo ",
    "BŀS~SHpƠpƣkíV$EkĵV$EkQUAD íÅpŐkűBŀS~SHkćTŀ UND_ükDEL*řI<kQUAD ćCARETpDEL*kćTŀ JOTkĻV$EkQUA",
    "D ĻÅkôTŀ ƃükDELřI<kQUAD ôCARETpDELkôTŀ JOTkĶV$EkQUAD ĶÅmOT^UND_ükDEL* UND_ükƼ UND_ükJOT UN",
    "D_ükűUND_ükUP,HO^JOTkQUOT^QUADjÒȈƙjŢQUAD CǤkôTŀ ţkDEL ţjÒƙ ţjŢJOT ţkűţkƈ,HOEřI<kĒ,HOEřI<kȃ",
    "ţkƣ ţjÒǋ=ĎjŢDEL ƍkZILDEjÒřIáƍkõMICǤ UND_üjŢQUAD ǟƽpQUESĳkćCARET ƍkôCARET ƍkIO*kRHOkOMEGAk.",
    "ą UND_ükEPSILÖUND_ükIO* UND_ükOMEGA UND_ük.ąaǟëCKÏaÄƯņĶZIGZAG ÅaSHOULD_Àġ BOXaBELLÒaĀķ&ðöa",
    "%S_ĳÒaCONT%UOUS UND_ķÒaDISCONT%UOUS UND_ķÒaEMąSISÒađPOSIĳÒaƸģ&ñR^Āķa+ÛÒaǬIŲKEYÒaHELMÒaøD Ɵ",
    "ü&NOTCHdĕ ƈaBROK+Ȉ&NORTHǇÅaUNDOÒaMONOS*B<ÒaHYSÛESISÒaġ-CIRCUIT-OUTPUT H-TYPEÒrL-TYPEÒaPASS",
    "IVE-PULL-ƈ-OUTPUTÒnUP-OUTPUTÒaDIRECT CURRâŢƚ ČaSOFTWARE-FUNŜÒaAPL FUNŜ.ŢQUADaDECIȅõĚ>OR KE",
    "YÒaPREVIOUS PAGEaNEXT PAGEaPR%T,CRE+ÒaC<AR,CRE+ÒaÃǏSIS ĿăgEXĮSŖgēăaÄǏSIS ĿăgEXĮSŖgēăaĒǓï Ŀ",
    "CORN_eEXĮSŖeēCORN_aàǓï ĿCORN_eEXĮSŖeēCORN_aÃƶY ï ĿăfȋPIECEf ēăaƶY ï EXĮSŖaÄƶY ï ĿăfȋPIECEf",
    " ēăa%TEGRÆEXĮSŖaƟǒEXĮSŖaĿÃOR ēÄƶY ïõŜbÄOR ēÃƶY ïõŜaSUM=ĳ ńgBOTTOMańǓïaBOTTOMǓïiĲńǓïaRADIC.",
    "ŢBOTTOMaÃĀBOX ķaÄĀBOX ķaƟSCÓķ-1g3g7g9aDâISTRYŢŮĀÌń àlBOTTOM àkƴȈjƈÐƟƴȈjUPÐƟƴȈjĀņĕjƈÐƟņĕjUP",
    "ÐƟņĕjĀÌWAVEjƈÐƟņWAVEjUPÐƟņWAVEjƈÐǞ.jUPÐǞ.jĀÌń ĒlBOTTOM ĒaSŕ^FOOTaRETURNÒaEJECTÒaĀǒEXĮSŖaME",
    "TRǃƧfƇƃ,ĞTfSǣȐȇfƇȐČ,ĞTSfČ,ĞTSĲȇk JO%EDfTRISEMEgETRASEMEfP+*SEMEaEARTH GRĊDaFUSEań ǏSISaBOT",
    "TOM ǏSISań ƶY ïaBOTTOM ƶY ïań TORTOISEŪLL ïaBOTTOM TORTOISEŪLL ïa×TRAPEZIUMaB+Z+^ǀ&øaSTRAI",
    "GHTNESSaFL>NESSaAC CURRâaE<CTRǃ%ÛSEŜaDECIMÆEXPONâÒaîǶ÷ÈĕbǢ÷ÈĕbUP-÷Èĕbƈ-÷ÈĕbǶ÷Èĕ&ĀübǢ÷Èĕ&Āü",
    "bǶ÷ĕ&ÈĀüaA~RM CǁaSńW>CHaȕR CǁaHOURG~SS&FǹÉ,äaîħ Ǣ÷ĕdǶ÷ĕdUP-÷ĕdƈ-÷ĕaÈĀüaĜǓĝ,ńaîűĝ RECORDaPO",
    "W_ÒdþON-OFFÒgÒd_,<EPÒaOBS_VþEYEÒaSYMBOL ĝ NULLiƙT ØHEADÉmTEXTi +D ØTEXToR$SMISSŖkQUIRYjŀNO",
    "W<DGEjBELLkŀSPACEjƟ*BU~ĳjǒFEEDjĀ*BU~ĳjƚ FEEDjCARRIAG^RETURNi,HIFT OUTo%i DA* L%K ESCAPEkEV",
    "IC^CONTROL ÍxČxƋxƀjNEG>IŲŀNOW<DGEi,YNCHRONOUS ID<i +D ØTR$SMISSIÖƗjC$CELj+D ØħiƒSTITUTEi E",
    "SCAPEjFI<õĚ>ORjGROUPõĚ>ORjRECORDõĚ>ORjUNITõĚ>ORi,PACEi DE<TEaBL$KÒaġ BOXaSYMBOL ĝ NEWķjDE<",
    "T^ƚ ČiƒSTITUT^ƚ Č"]),
  (0x2440, [
    "OCR ăeÔIReĝKeƖĝKeBELT BUCK<fOW TIEfR$CH B$K IDâIFICìeAMĊT ØëCKeDASHeCUSTOMþACCĊT NƿeÈBŀS~S",
    "H"]),
  (0x2460, [
    "øD įdĤdĥdĴdŁdľdŉdŊdŋdNƿųeĩE<V+fTWELVEfŹƎfƀƎfFIFƎeǿƎeƿğƎeĩĈE+fŶƎfǝaǏSIZÀįfĤfĥfĴfŁfľfŉfŊfŋfN",
    "ƿųgĩE<V+hTWELVEhŹƎhƀƎhFIFƎgǿƎgƿğƎgĩĈE+hŶƎhǝaį ǠaĤ Ǡaĥ ǠaĴ ǠaŁ Ǡaľ Ǡaŉ ǠaŊ Ǡaŋ ǠaNƿų ǠbĩE<V",
    "+ ǠcTWELŲǠcŹƎ ǠcƀƎ ǠcFIFƎ ǠbǿƎ ǠbƿğƎ ǠbĩĈE+ ǠcŶƎ Ǡcǝ ǠaǏSIZÀƨƂg;BhChDhEhFhGhHhIhJhKhLhMhNh",
    "OhPhQhRgŎg;ThUhVhWhXhYhZaøD ƨƌe|BfCfDfEfFfGfHfIfJfKfLfMfNfOfPfQfReŷe|TfUfVfWfXfYfZeƂe;BfCf",
    "DfEfFfGfHfIfJfKfLfMfNfOfPfQfReŎe;TfUfVfWfXfYfZdŦaNEG>IVEȈD NĩE<V+mTWELVEmŹƎmƀƎmFIFƎlǿƎlƿğƎ",
    "lĩĈE+mŶƎmǝaĘȈD įeĤeĥeĴeŁeľeŉeŊeŋeNƿųaNEG>IVEȈD ŦaBOX DRAWÉS ŮǞ.léǞ.lŮƮ.léƮ.lŮǈáDASH Ǟ.léǈá",
    "DASH Ǟ.lŮǈáDASH Ʈ.léǈáDASH Ʈ.lŮQUADRUPáDASH Ǟ.léQUADRUPáDASH Ǟ.lŮQUADRUPáDASH Ʈ.léQUADRUPá",
    "DASH Ʈ.lŮƈÐàlćǘÐÄǗmǗÐÄǘléƈÐàlŮƈÐĒlćǘÐÃǗmǗÐÃǘléƈÐĒlŮUPÐàlôǘÐÄǗmǗÐÄǘléUPÐàlŮUPÐĒlôǘÐÃǗmǗÐÃǘl",
    "éUPÐĒlŮĀÌàlĀǘÐÄǗlôǗÐÄćǘlćǗÐÄôǘlĀǗÐÄǘlćǘÐÄôǗlôǘÐÄćǗléĀÌàlŮĀÌĒlĀǘÐÃǗlôǗÐÃćǘlćǗÐÃôǘlĀǗÐÃǘlćǘÐ",
    "ÃôǗlôǘÐÃćǗléĀÌĒlŮƈÐǞ.lÃǗÐÄćǘlÄǗÐÃćǘlćǘÐƟǗmǗÐƟǘlÄǘÐÃćǗlÃǘÐÄćǗléƈÐǞ.lŮUPÐǞ.lÃǗÐÄôǘlÄǗÐÃôǘlôǘ",
    "ÐƟǗmǗÐƟǘlÄǘÐÃôǗlÃǘÐÄôǗléUPÐǞ.lŮĀÌǞ.lÃǗÐÄĀǘlÄǗÐÃĀǘlĀǘÐƟǗlôǗÐćƟǘlćǗÐôƟǘlĀǗÐƟǘlÃôǗÐÄćǘlÄôǗÐÃć",
    "ǘlÃćǗÐÄôǘlÄćǗÐÃôǘlćǘÐôƟǗlôǘÐćƟǗlÄǘÐÃĀǗlÃǘÐÄĀǗléĀÌǞ.lŮÈDASH Ǟ.léÈDASH Ǟ.lŮÈDASH Ʈ.léÈDASH Ʈ",
    ".lÈǞ.mƮ.lƈž<ÐÄĘlćĘÐàž<lÈƈÐàlƈž<ÐÃĘlćĘÐĒž<lÈƈÐĒlUPž<ÐÄĘlôĘÐàž<lÈUPÐàlUPž<ÐÃĘlôĘÐĒž<lÈUPÐĒlƮ",
    ".ž<ÐÄĘlĀĘÐàž<lÈĀÌàlƮ.ž<ÐÃĘlĀĘÐĒž<lÈĀÌĒlƈž<ÐƟĘlćĘÐǞ.ž<lÈƈÐǞ.lUPž<ÐƟĘlôĘÐǞ.ž<lÈUPÐǞ.lƮ.ž<ÐƟĘ",
    "lĀĘÐǞ.ž<lÈĀÌǞ.lŮARC ƈÐàsĒqUPÐĒtàmǡÆĿÄĨēĒpÃĨēàn.ƳmĒmUPmàmƈléĒmUPmàmƈlŮĒÐéàmUPÐéƈléĒÐŮàmUPÐŮ",
    "ƈaĿāƗaēÙĈH ƗcŕơƗbÿĈHS ƗbāƗbťĈHS ƗbÿŕÛS Ɨaǹ_ğ ĈHS ƗaFULL ƗaĒğ ĈHS ƗaÃÿŕÛS ƗbťĈHS ƗbāƗbÿĈHS ",
    "ƗbÙŕơƗcĈH ƗaÄāƗaǘĄDEaħĄDEaDARKĄDEaĿÙĈH ƗaÄÙĈH ƗaQUADR$T ēĒjàiĿĒkÐēĒÐēàmàlĿàÐēĒpàjàkÐēĒnÐēà",
    "aĜģaƸģc&RĊDÀCORN_SbǓCON*%ÉȏœģaSŕĂƟFILLdĀFILLdORTHOGON.ƳH>CH FILLdĿÃĨēÄFILLeÄĨēÃFILLdǡ.ƳH>C",
    "H FILLaĜœģaƸœģaîRECTÎ<a×RECTÎ<aîĀRECTÎ<a×ĀRECTÎ<aîĚ.<LOGRAMa×Ě.<LOGRAMaîUP-÷ĕa×UP-÷ĕaîUP-Ž",
    "Éßĕa×UP-ŽÉßĕaîǶ÷ĕa×Ƕ÷ĕaîǶŽÉßĕa×ǶŽÉßĕaîǶ÷Ž_a×Ƕ÷Ž_aîƈ-÷ĕa×ƈ-÷ĕaîƈ-ŽÉßĕa×ƈ-ŽÉßĕaîǢ÷ĕa×Ǣ÷ĕaîǢŽ",
    "Éßĕa×ǢŽÉßĕaîǢ÷Ž_a×Ǣ÷Ž_aîƼa×Ƽc CON*%ÉȏßƼaFĆEYEaLOZ+GEaƸȈaǾEDȈaø&ĀFILLaBULLSEYEaĜȈaø&ÃȄȏcÄȄȏ",
    "cēȄȏcĿȄȏdÄQUADR$TȏcÜ BUT ĿÃQUADR$TȏaÃȄȏȈaÄȄȏȈa%ŵS^BUL<TeƸȈaĿā%ŵS^ƸȈaēā%ŵS^ƸȈaĿÃQUADR$T CIR",
    "CƉARCbÄQUADR$T CIRCƉARCaēÄQUADR$T CIRCƉARCbÃQUADR$T CIRCƉARCaĿȄȈaēȄȈaîēÄĕcÃĕbĿÃĕcÄĕa×BUL<T",
    "aSŕĂÃȄȏdÄȄȏdĿÃǡÆȄȏdēÄǡÆȄȏaƸģ&ĀBISECTÁķa×UP-÷ĕ&öaUP-÷ĕ&ÃȄȏgÄȄȏaŚȈaƸģ&ĿÃQUADR$TdēÃQUADR$TeÄQ",
    "UADR$TdĿÄQUADR$TbȈ&ĿÃQUADR$TdēÃQUADR$TeÄQUADR$TdĿÄQUADR$TaĿÃĕbÄĕaēÃĕa×ħģaîħģa×ħœģaîħœģaēÄĕ",
    "aĜ,UN&RAYSaCLOUDaUMBREĪaSNOWM$ađETaĜƙaƸƙaǘNÉaTHUND_STORMaSUNaASC+DÁNODEaDESC+DÁNODEaCONJUN",
    "ŜaOPPOSIĳaîTE<PHÍa×TE<PHÍaBÜOT BOXi&ëCKjXaS.TIREaUMBREĪ&RAşDROPSaHOT BEŵAGEaƸ,HOGI PIECEaĜ",
    ",HOGI PIECEaS!MROCKaŰƐFLORÆǐT BUL<TaîÃ÷ǼbÄ÷Ǽa×Ã÷Ǽbô÷ǼbÄ÷Ǽbć÷ǼaSKULLÐǊBÍSaCAUĳÂaRADIOACTIVE",
    "ÂaBIO!ZŞÂaCADUCEUSa$KHaORTHODOXƳaCHI RHOaǊ ØLORRA%EdJ_USĖMaS*RÐCRESñaFARSIÒaADIĄKTIa!MM_ÐS",
    "ICK<aPEACEÒaYşYÎaTRIGRAM ĝ HEAV+k~KEkFIREkTHUND_kW%DlǛkMĊ*%kEARTHaWHEEL ØD!R=a×FROWNÁòaƸ,M",
    "ILÁòaĜ,MILÁòaƸ,UN&RAYSaFIRST ŕơMOONa~ST ŕơMOONaM_CURYaFE=<ÂaEARTHa=<ÂaJUPIÛaS>URNaUR$USaNE",
    "PTUNEaPLUTOaARIESa*URUSaGEM%IaC$C_a<OaVIRGOaLIBRAaSCORPIUSbAGIƅRIUSaCAPRICORNaAŕIUSaPISCES",
    "a×ëưKÉdQUE+dROOKdBĆOPdKNIGHTdPAWNaîëưKÉdQUE+dROOKdBĆOPdKNIGHTdPAWNaĜ,PADƭUITa×ǐT,UITbƼ,UIT",
    "aîCLUB,UITaƸ,PADƭUITaîǐT,UITbƼ,UITa×CLUB,UITaHOT,PǀSaŕơNOTEaĈH NOTEaBEAMÀĈH NOTESeEDżƎTH N",
    "OTESaMUSÕFL>ÂeN>UR.ÂdICĄRPÂaǇSYRIACƳaƜSYRIACƳaUNIŵSÆRECYCLÉÒaRECYCLÉŢĝ TYPE-1 P~SňSp2 P~Sň",
    "Sp3 P~SňSp4 P~SňSp5 P~SňSp6 P~SňSp7 P~SňSkG+_ÕMǛI.SaîUNIŵSÆRECYCLÉÒaRECYCLÀPAĢÒaĚTIÜY-RECY",
    "CLÀPAĢÒaĢM$ǲPAĢÂaWHEELÔIRÒaDI^ò-1f2f3f4f5f6aƸȈșàc&æöSaĜȈ&×Ʋàdæ×öSaMONOGRAM ĝ YÎm%aDIGRAM ĝ",
    " GREAơYÎj<SSþY%oÎjGREAơY%a×F~GaîF~Ga!MM_ÐPICKa$CĞaǊED,WORDSaS*FF ØAESCU~PIUSbCĖSaĖMBICaFǹ_",
    "aGEARaS*FF ØH_MESa>OMÒaF<UR-DE-LISaOUTL%ÀƸƙaÿķS CONŵGÁàkĒaWARNÉÂaŬVOL*GEÂaĘD FE=<Âd=<Âa%Ûǁ",
    "ÀFE=<Ð=<Âa=<ÐFE=<ÂbáĐÂdÐ=<ÐFE=<ÂaĀ=áĐÂaƟ=áĐÂaħ ƸȈbȏȈbßƸȈa=RRIAGEÒaDIVORCEÒaUN=RRIÀĚTN_SHIP",
    "ÒaCOFF%aFUN_ÆURNaNEUÛaC_ESaP.~SaJUNOaVES*aCHIRONaîMOÖLILITHaSEXTI<cMISEXTI<aQU%CUNXaSESQUI",
    "QUADR>EbOCCþBÜaBASEBÜaSŕÀKEYa×DRAUGHTS M$kKÉaîDRAUGHTS M$kKÉaSNOWMÓƴOUT,NOWbUN BEH%D CLOUD",
    "aRA%aĜ,NOWM$aTHUNDþCLOUDÐRA%aŏƸ,HOGI PIECEbĜ,HOGI PIECEa×Ƽ %ģaǊÁL$ESaDISABLÀCARaOPHIUCHUSa",
    "PICKaCAR,LIDÉaHELMEǨ×ǊaøDƳÁL$ESaÔ%SaNO âRYaǬ^Í-WAY ÃWAY TRAFFICaîČ-WAY ÃWAY TRAFFICa×Č-WAY",
    " ÃWAY TRAFFICaîÃL$^M_GEa×ÃL$^M_GEaDRIVƭǹÂaé×ƈ-÷ĕaÃCLOSÀâRYaSŕED,.TIREaFÜÁǡÆş×ű%ȏģaîTRUCKaR",
    "ESTRICTÀÃâRY-1o2aASTRONOMIC.Ţĝ UR$USaéűĐÐæǥaP+*GRAMaǶHäÀ%Û~CÀP+*GRAMaǢHäÀ%Û~CÀP+*GRAMaƖP+*",
    "GRAMaîǊ ON,HIELDaSH%TO,HR%EaCHURCHbAST<aHISTORICĽTEaGEAR ƴOUT HUBe&Hä<Sa=PŢĝ ǘHOUSEaMĊ*%aU",
    "MBREĪ ÖGRĊDaFĊ*%b~G şHO<b_RYaSAILBO>bŕ^ŭCORN_SbKI_aICƭK>EaĢSƫBÜaTâaJAP$ES^B$KÒaHEADSTÙũYŞÒ",
    "aFUEL PUMPaCôONȏģa×F~G&ƟðĜ,ǈEaĜ,AFETY,CISSORSaĿB~DƭCISSORSaĜ,CISSORSaēB~DƭCISSORSaƸ,CISSOR",
    "Sa×éëCKÏaTE<PHÙLOCìÂa*P^DRIVEaAIRƆEa+VELOPEaRAISÀFISTfHäaVICTORY HäaWRITÁHäaēÄP+CILaP+CILa",
    "ĿÄP+CILa×NIBaîNIBaëCKÏaéëCKÏaMULTIPLICì XaéMULTIPLICì XaBÜOT XaéBÜOT XaOUTL%ÀǫƳaéǫƳaġ ñR^Ǌ",
    "aéġ ñR^ǊaƨƳaS!DOWÀ×ƨƳaOUTL%ÀƨƳaȅTES^ǊaS*R ØDAVIDaŭTEŞROP-SPOKÀǙbBÜOON-SPOKÀǙaéŭBÜOON-SPOKÀ",
    "ǙaŭCLUB-SPOKÀǙaîŭŽEDƙa×ŭŽEDƙaSĚK<SbTREưOUTL%ÀƸƙaøD Ƹƙaġ ñREȏƙaîñR^ƸƙaOUTķDȏƙaéOUTķDȏƙaP%WH",
    "EELƙaS!DOWÀƸƙaéǙaġ ñR^ǙaĈ,POKÀǙaEĸŽEDȏƙdÀP%WHEELƙaSIX ŽEDȏƙaEĸŽÀRECTIķARȏƙaéEĸŽÀRECTIķARȏƙ",
    "aTWELŲŽEDȏƙaSIXƎ ŽÀǙaTEŞROP-SPOKÀǙaġ ñR^TEŞROP-SPOKÀǙaéTEŞROP-SPOKÀǙaSIX PET.<DȏÐ×FLORETTE",
    "aîFLORETTEa×FLORETTEaEĸPETÜÀOUTL%ÀîFLORETTEaøD ġ ñR^EĸŽEDƙaéTEŞROP-SPOKÀP%WHEEL ǙaSNOWF~KE",
    "aTĸTRIFOLI>ƭNOWF~KEaéëVRON,NOWF~KEaSĚK<aǗ,ĚK<aBÜOON-SPOKÀǙaEĸTEŞROP-SPOKÀĭPELLþǙaéEĸTEŞROP",
    "-SPOKÀĭPELLþǙaǊÏaS!DOWÀƸȈaNEG>IVEģDƳÏaēÄDROP-S!DOWÀƸģaĿÄDROP-S!DOWÀƸģaēàĄDOWÀƸģaĿàĄDOWÀƸģa",
    "îQUESĳÏ ƺa×QUESĳÏ ƺbEXCóŗ ƺaîƼ M%US ×XaéEXCóŗÒaŮĀüaħ ĀüaéĀüaǗžáŏđ= QUOTŗ ƺc<ǋ= QUOTŗ ƺaéÈŏ",
    "đ= QUOTŗ ƺbĘǋ= QUOTŗ ƺbǹž<ǋ= QUOTŗ ƺbėĘǋ= QUOTŗ ƺaCURVEDřEM ĚAGRčÊƺaéEXCóŗ ƺbǐT EXCóŗ ƺbîǐ",
    "TaƐéîǐT BUL<TaFLORÆǐTaƐFLORÆǐT BUL<Taħ ÃǏSIS ƺcÄǏSIS ƺcFL>ĮÀÃǏSIS ƺhÄǏSIS ƺcǢ÷Ưï ƺcǶ÷Ưï ƺa",
    "éǢ÷ƯQUOTŗ ƺbǶ÷ƯQUOTŗ ƺbǢ÷Ưï ƺbǶ÷Ưï ƺaŮÃTORTOISEŪLL ï ƺbÄTORTOISEŪLL ï ƺaħ ÃƶY ï ƺcÄƶY ï ƺa",
    "DÉB> NEG>IVEȈD įpĤpĥpĴpŁpľpŉpŊpŋpNƿųeȈD,$S-S_IF įpĤpĥpĴpŁpľpŉpŊpŋpNƿųe NEG>IVEȈD,$S-S_IF į",
    "xĤxĥxĴxŁxľxŉxŊxŋxNƿųaéWIDEȔŐbǳÂbM%UƪbDIVISŖÂaǗ,ǆƜÅaéŐbǖƜÅaDRAFTÁŽ ŐaéRĊD-TIPPÀŐaŴŐaéŴŐaDAS",
    "HÀŴŐaéDASHÀŴŐaîŐaƋ-D ń-ǘÀĵšeBOTTOM-ǘÀĵšaîĵšaéîCURVÀĶÌŐhĻÌŐaSQU> îŐaéCONCAVE-ŽÀîŐaǶS!DÀ×ŐaǢ",
    "S!DÀ×ŐaBŀ-TILTEDĄDOWÀ×ŐaFRONT-TILTEDĄDOWÀ×ŐaéēǶS!DOWÀ×ŐbĿǶS!DOWÀ×ŐaNOTCHÀēǶS!DOWÀ×ŐaƶY LOO",
    "PaNOTCHÀĿǶS!DOWÀ×ŐaøD é×ŐaƸ-FE>H_ÀŐaĜ-FE>H_ED,ǆƜÅhÀŐiǖƜÅaǗȏ-FE>H_ED,ǆƜÅiÀŐjǖƜÅaTEŞROP-üBÀŐ",
    "aéTEŞROP-SH$KÀŐaWEDGE-ŅÀŐaéWEDGE-ŅÀŐaġ-OUTL%ÀŐaÈƶY LOOPaÿDIM+SŖÆÎ<a×ĕ CON*%Éß×ĕaĢP+DICU~Ra",
    "ġƒSETb,ǱSETaĒ,-S!PÀBAG DELIMIÛaà,-S!PÀBAG DELIMIÛaORș%SIDEaȊSƭOLIDUS PRECEDÉƒSETaSǱSET PRE",
    "CEDÉ,OLIDUSaĀü&ǞƛaěƢRISÁǡ.aƇDIVISŖaěƢFÜÁǡ.aSŕÀLOGǃähORa×Ƽ&ñRÀöa$ƱöaE<MǲØġÁUPWǩaēÄCORN_&öaĿ",
    "ÃCORN_&öaÃOUơJO%aÄOUơJO%aFULL OUơJO%aŚ ôTŀcćTŀaĒÐÄÈTURNSTI<dTŀaÃMULTI=PaƇÄTŀbÃTŀaôTŀ&űŒaLO",
    "Z+G^DIVIDÀBY ƟRU<a×CONCAVE-SIDÀƼo&íňKpĵňKaƸģ&íňKdĵňKaěƢÃƸǓïcÄƸǓïcÃƯïcÄƯïcÃÈƯïcÄÈƯïcÃ×TORTO",
    "ISEŪLL ïcÄ×TORTOISEŪLL ïcÃFL>ĮÀǏSIScÄFL>ĮÀǏSISaĻQUADRUPáÅaĶQUADRUPáÅa$ňǁWIS^GAPPÀűÅaCǁWIS^",
    "GAPPÀűÅaÄŇøD ǳaƇíÅbŐbÃÄÅbíÈÅbĵÈÅbÃÄÈÅbíďFROMĎbŐ FROMĎbíÈďFROMĎbĵÈďFROMĎcSQUIGGáÅaBRAILáP>Û",
    "N BL$KlöS-1o2nŌn-3o13o23nŌ3n-4o14o24nŌ4n-34o134o234nŌ34n-5o15o25nŌ5n-35o135o235nŌ35n-45o14",
    "5o245nŌ45n-345o1345o2345nŌ345n-6o16o26nŌ6n-36o136o236nŌ36n-46o146o246nŌ46n-346o1346o2346nŌ",
    "346n-56o156o256nŌ56n-356o1356o2356nŌ356n-456o1456o2456nŌ456n-3456o13456o23456nŌ3456n-7o17o",
    "27nŌ7n-37o137o237nŌ37n-47o147o247nŌ47n-347o1347o2347nŌ347n-57o157o257nŌ57n-357o1357o2357nŌ",
    "357n-457o1457o2457nŌ457n-3457o13457o23457nŌ3457n-67o167o267nŌ67n-367o1367o2367nŌ367n-467o1",
    "467o2467nŌ467n-3467o13467o23467nŌ3467n-567o1567o2567nŌ567n-3567o13567o23567nŌ3567n-4567o14",
    "567o24567nŌ4567n-34567o134567o234567nŌ34567n-8o18o28nŌ8n-38o138o238nŌ38n-48o148o248nŌ48n-3",
    "48o1348o2348nŌ348n-58o158o258nŌ58n-358o1358o2358nŌ358n-458o1458o2458nŌ458n-3458o13458o2345",
    "8nŌ3458n-68o168o268nŌ68n-368o1368o2368nŌ368n-468o1468o2468nŌ468n-3468o13468o23468nŌ3468n-5",
    "68o1568o2568nŌ568n-3568o13568o23568nŌ3568n-4568o14568o24568nŌ4568n-34568o134568o234568nŌ34",
    "568n-78o178o278nŌ78n-378o1378o2378nŌ378n-478o1478o2478nŌ478n-3478o13478o23478nŌ3478n-578o1",
    "578o2578nŌ578n-3578o13578o23578nŌ3578n-4578o14578o24578nŌ4578n-34578o134578o234578nŌ34578n",
    "-678o1678o2678nŌ678n-3678o13678o23678nŌ3678n-4678o14678o24678nŌ4678n-34678o134678o234678nŌ",
    "34678n-5678o15678o25678nŌ5678n-35678o135678o235678nŌ35678n-45678o145678o245678nŌ45678n-345",
    "678o1345678o2345678nŌ345678aĵČȔŇƮƛeÈƮƛaíÈŇƮƛaĵÈŇƮƛaÃÄÈŇƮƛaĵČȔďFROMĎaíÈďFROMĎaĵÈďFROMĎaĶŇǞƛ",
    "aĻŇǞƛbǈáÅaĶǈáÅaíÈDASH ÅaĵÈDASH ÅaíǈáDASH ÅaĵǈáDASH ÅbČȔǈáDASH ÅaŐ&ǾEDřEMaĻďTOĎaĶďTOĎaŐ&Ņ&Ʈ",
    "ƛeÈƮƛaĵČȔŇŅf&ƮƛgÈƮƛaíÅ-ŅaŐ-ŅaíÈÅ-ŅaĵÈÅ-ŅaíďĨîƼaŐ ĨîƼaíďFROMĎ ĨîƼaŐ FROMĎ ĨîƼaǖǇä,ǆƜÅbƜä,ǆǇ",
    "ÅbǇÅśbƜÅśaSǆƜÅścǇÅśaǖǇÅÐǖƜÅbƜďä,ǆƜÅaSǆƜďä,ǆǇÅcǇÅÐǖǇÅaRISÁǡ.ƳÁFÜÁǡ.aFÜÁǡ.ƳÁRISÁǡ.aSǆƜďǊÁǖƜÅ",
    "aǖƜďǊÉ,ǆƜÅaFÜÁǡ.ƳÁǖƜÅaRISÁǡ.ƳÉ,ǆƜÅaǖƜďǊÁǖǇÅbǇďǊÁǖƜÅaWAŲď÷DIRECTLY àaď÷ĵTH+ CURVÁUPWǩmƈWǩcĶ",
    "TH+ CURVÁĒWǩmàWǩaǶSID^ARC CǁWIS^ÅaǢSID^ARC $ňǁWIS^Åań ARC $ňǁWIS^ÅaBOTTOM ARC $ňǁWIS^Åań A",
    "RC CǁWIS^ŇM%USg$ňǁWIS^ŇǳaēàõMICIRCƉCǁWIS^ÅbĒõMICIRCƉ$ňǁWIS^Åa$ňǁWIS^CLOSÀűÅaCǁWIS^CLOSÀűÅa",
    "Őã,ǣíÅaíďŒ,ǣŐaSǣŐ őíÅaŐ&ǳĬaíŇǳĬaŐ THROUGH XaÃÄďTHROUGHœȈaĻČȔďFROMœȈaÃƾôÄƾć!RPOONcćÄƾô!RPOO",
    "NaôƾÄćƾÃ!RPOONcÃćƾÄ!RPOONaÃƾôÄƾô!RPOONaôƾÄćƾÄ!RPOONaÃƾćÄƾć!RPOONaôƾÃćƾÃ!RPOONaíǺôTOĎaĵǺôTO",
    "ĎaĻǺÄTOĎaĶǺÄTOĎaíǺćTOĎaĵǺćTOĎaĻǺÃTOĎaĶǺÃTOĎaíǺôFROMĎaĵǺôFROMĎaĻǺÄFROMĎaĶǺÄFROMĎaíǺćFROMĎaĵ",
    "ǺćFROMĎaĻǺÃFROMĎaĶǺÃFROMĎaíǺôőíǺƈaĻǺÃBESID^ĻǺàaĵǺôőĵǺƈaĶǺÃBESID^ĶǺàaíǺôőĵǺUPcćőĵǺƈaĵǺôőíǺU",
    "PcćőíǺƈaíǺôőƇDASHcƈĬ ƇDASHaĵǺôőƇDASHcƈĬ ƇDASHaĻǺÃBESID^ĶǺàaĶǺÃBESID^ĻǺàaÄÈŇRĊDÀHEADaƽSÊőŐa",
    "ȃǯ őŐaíďőȃǯaŐ őȃǯd.MOST ĹaƠ őíÅaíďTHROUGH Ơaƣ őŐaSUBSET őŐaíďTHROUGHƒSETaSǱSET őíÅaÃFĆ ŅaÄ",
    "FĆ ŅaôFĆ ŅaćFĆ ŅaǈáĀü DELIMIÛaZ NO*ĳ,POTg TYP^CǤaÃ×ƶY ïaÄ×ƶY ïaÃ×ǏSISaÄ×ǏSISaZ NO*ĳ ÃI=G^ï",
    "hÄI=G^ïhÃīDÁïhÄīDÁïaĒǓï&UND_üaàǓï&UND_üaĒǓï&ňK şń CORN_aàǓï&ňK şBOTTOM CORN_aĒǓï&ňK şBOTTO",
    "M CORN_aàǓï&ňK şń CORN_aÃƯï&öaÄƯï&öaÃARC Ơ ïaÄARC ƣ ïaÈÃARC ƣ ïbÄARC Ơ ïaÃîTORTOISEŪLL ïaÄ",
    "îTORTOISEŪLL ïaǾÀF+CEaĀZIGZAG ķaMEASURÀƯġÁĒaÄƯĺNT ƴģaMEASURÀÄƯņöaƯȗ %SIDEaę Î<aSPH_ǃƯġÁĒiU",
    "PaŏÎ<aŰÎ<aƯņUND_üaŰƯņUND_üaOBLIQU^ƯġÁUPkƈaMEASURÀƯņġ ARM +DÁşď÷UPÐàyĒvƈÐàxĒvàÐUPvĒÐUPvàÐƈv",
    "ĒÐƈaŰEMPTYõTaEMPTYõǨƃügT ƴßűŒgǨÄďŒhÃďŒaø&ƟübD ĀüdĚ.<LdȊSƭOLIDUSdĢP+DICU~RaűDIVIDÀBY ƟüÐń ā",
    "DIVIDÀBY ĀübȗǱIMPOSÀXaøD $ňǁWISE-ƐDIVISŖÂaôďTHROUGHȈaøD ×BUL<TdBUL<TdƠdƣaűƴßűĨTH^àaø&æǞƛS ",
    "ĨTH^àaSŕÀRISÁǡȍ~SHdFÜÁǡȍ~SHdǙcEDœȈeģaæJO%EDģSaĕſb&UND_üaS şĕaĕ&S_IFS > BOTTOMaÄĕ őÃĕaÃĕ BE",
    "SID^ĀüaĀü BESID^ÄĕaBOWTIĂÃȄȏgÄȄȏaîBOWTIEaȕS&ÃȄȏdÄȄȏa×HOURG~SSaîHOURG~SSaÃWIGGLY F+CEaÄWIGG",
    "LY F+CEaÃÈWIGGLY F+CEaÄÈWIGGLY F+CEa%đP<T^%F%ITYaTI^Ȑ%F%ITYa%F%IĦNEG>EƱĀüaĘ-+DÀMULTI=PaSŕĂ",
    "CONTOURÀOUTķa%CREASES ASaSHUFFáĭDUCTaƽƪÐSL$TÀĚ.<LlǍȃŒaID+ňȚÐSL$TÀĚ.<LaG<ICHƙKaTH_MODYNAMIC",
    "aƈ-÷ĕ&ÃȄȏfÄȄȏaîƼ&ćÅbLOZ+GEaƸȈ&ćÅaĜȈ&ćÅa_ROR-üRÀƸģhEDȏģhÀ×ƼiîƼiƸȈhEDȏȈaRU<-DE~YEDaȊSƭOLIDUS",
    " ǯaSOLIDUS&ƃüaȊSƭOLIDUS&ǞƛaBIG,OLIDUSd ȊSƭOLIDUSaÈǳaǈáǳaǢ÷CURVÀƯïaǶ÷CURVÀƯïaT%YaM%YaN-ARYȈ",
    "D Ʋǯiĉǯhåǯf UNIÖǯ&ömǳfǓ%ÛSEŜ ǯgUNIÖǯaæLOGǃÌǯfOR ǯaN-ARYåǯaMODULO Č,UMaSUM=ĳ&%TEGR.aQUADRUP",
    "á%TEGRÆǯaF%IT^ĚT %TEGR.a%TEGR.&ĘȆfÆAŵAG^ȗ~SHaCIRCU~ĳ FUNŜa$ňǁWIS^%TEGRìaǒ%TEGRì&RECTÎƉP>H ",
    "ARĊD PO<iSEMICIRCƉP>H ARĊD PO<h ǟ%CLUDÁTH^PO<a%TEGRÆARĊD A Ž ǯaQUǛNIÖ%TEGRÆǯa%TEGR.&íÅśhȕƪ",
    "h%ÛSEŜhUNŖhƃühUND_üaJO%aŚ Ãĕ ǯaZ NO*ĳ,ë=ǋPOSIĳj PIPÉkĭJEŜaǳÊƴßűŒbÂ&ƷACñãdȃŒcƓc&ƍĬbÊƴƒSǚČbÂ",
    "&îĕaM%Uƪ&đ=ãeƓe&FÜÁöSfRISÁöSaǳÊşÃȄȈdÄȄȈaVECTOR ORƳ ĭDUCTaMULTIPLICìÂſl&UND_üaSEMIDIRECT ĭD",
    "UCǨBOTTOM CLOSEDb=SH ĭDUCTaMULTIPLICìÊşÃȄȈmÄȄȈaøD MULTIPLICìÂ&ƷACñaMULTIPLICìÊşĘȈaøD DIVIS",
    "ŖÂaǳÊşĕaM%USÊşĕbULTIPLICìÊşĕa%ÛIOR ĭDUCTaàHÌ%ÛIOR ĭDUCTaZ NO*ĳ RE~ĳ.ǋPOSIĳaAȅGA=ĳ OR COĭDU",
    "CTa%ÛSEŜ&öaUNIƫM%Uƪeƃüa%ÛSEŜ&ƃügLOGǃäaUNIƫLOGǃORdÖő%ÛSEŜa%ÛSEŜ őUNŖaUNŖãĎ ő%ÛSEŜa%ÛSEŜãĎ ő",
    "UNŖaUNIÖBESIDEÐJO%EƱUNŖa%ÛSEŜ BESIDEÐJO%EƱ%ÛSEŜaCLOSÀUNIƫS_IFSf%ÛSEŜ&S_IFSaĘǓ%ÛSEŜcUNŖaCLO",
    "SÀUNIƫS_IFSÐS=SH ĭDUCTaLOGǃäſeORſaÈLOGǃäfORaæ%ÛSECTÁLOGǃämORaSLOPÁŚ ORhäaLOGǃOR ƃ~PPÁLOGǃä",
    "e$ƱðSTEMeOR&ðSTEMe$ƱƟDASHeOR&ƟDASHe$ƱÈƃügUND_ügÈUND_üaSMÜ VEĂUND_üaLOGǃOR&ÈƃüiUND_üaZ NO*ĳ",
    " DO=ş$TIRESTRIŜhRÎ^$TIRESTRIŜaƽƪƓaID+ň.ſaǈáƟü&ÈƮƛfǈáƮƛaȃǯſc&RISÁöSaSIMI~R M%USĽMI~RaCONGRU",
    "âſaƽS&Ǚa.MOST Ĺ&ƷACñaAPĭXIěELYȉÆOR ĹaƽSÊőǳÂaǳÊőƽƪaƽSÊőȃǯaÈCǤ ƽaæCONSECUTIŲƽƪSaÿCONSECUTIŲƽ",
    "ƪSaƽƪ&æǥÐæǅùaEQUIV.+ǨŭǥaƠ&ű%SIDEaƣ&ű%SIDEaƠ&QUESĳÏãaƣ&QUESĳÏãaƠ OR,L$TÀĹaƣ OR,L$TÀĹaƠ OR,L",
    "$TÀĹș%SIDEaƣ OR,L$TÀĹș%SIDEaƠ OR,L$TÀĹſaƣ OR,L$TÀĹſaƠ OR,L$TÀĹſ àaƣ OR,L$TÀĹſ ĒaƠ OR APĭXI",
    "ěEaƣ OR APĭXIěEaƠ äž<-ǒǟĹaƣ äž<-ǒǟĹaƠÐǟAPĭXIěEaƣÐǟAPĭXIěEaƠ őĘ-ǒƽ őƣaƣ őĘ-ǒƽ őƠaƠãĽMI~R OR",
    " ƽaƣãĽMI~R OR ƽaƠãĽMI~R őƣaƣãĽMI~R őƠaƠ őƣ őĘ-ǒƽaƣ őƠ őĘ-ǒƽaƠã,L$TÀƽ őƣã,L$TÀƽaƣã,L$TÀƽ őƠ",
    "ã,L$TÀƽaSL$TÀĹ OR ƠkƣkƠș%SIDEkƣș%SIDEaĘ-ǒĹ OR Ơiƣcķ,L$TÀĹ OR ƠnƣaSIMI~R OR ƠkƣhőƠ őƽƪiƣ őƽ",
    "ƪaÈNESTÀƠgƣgƠ&UND_üaƣ ƃ~PPÁƠcBESID^ƠaƠ CLOSÀBY CURVEaƣ CLOSÀBY CURVEaƠ CLOSÀBY CURŲŒ,L$TÀƽ",
    "aƣ CLOSÀBY CURŲŒ,L$TÀƽaSMÜþTH$aŚR TH$aSMÜþTHÓOR ĹaŚR THÓOR Ĺaƽƪ&BUMPYãaPRECEDESãž<-ǒƽƪaSUC",
    "CEEDSãž<-ǒƽƪaPRECEDESãž<-ǒǟĹaSUCCEEDSãž<-ǒǟĹaPRECEDES őƽƪaSUCCEEDS őƽƪaPRECEDES őǟĹaSUCCEE",
    "DS őǟĹaPRECEDES ő.MOST ĹaSUCCEEDS ő.MOST ĹaPRECEDES őǟ.MOST ĹaSUCCEEDS őǟ.MOST ĹaÈPRECEDES",
    "aĘ,UCCEEDSaSUBSEǨöbǱSEǨöbUBSEǨǳÂĬbǱSEǨǳÂĬbUBSEǨMULTIPLICìÂĬbǱSEǨMULTIPLICìÂĬbUBSET ØOR Ĺſb",
    "ǱSET ØOR ĹſbUBSET ØőƽƪbǱSET ØőƽƪbUBSET ØőȃǯbǱSET ØőȃǯbUBSET Øő.MOST ĹbǱSET Øő.MOST ĹbUBSET",
    " ØőǟĹbǱSET ØőǟĹbŕ^Ãġ BOX ǯdÄġ BOX ǯaCLOSEDƒSETg,ǱSETgƒSET OR Ĺg,ǱSET OR ĹaSUBSETã,ǱSETbǱSE",
    "TãƒSETbUBSETãƒSETbǱSETã,ǱSETf BESIDEƒSETmÐJO%ÀBY DASÞSUBSETaE<MǲØġÁƈWǩaPITCHĝK&TE^ńaTR$SŵS",
    "Æ%ÛSEŜaĝKÉaNONĝKÉaSǣÃTŀcćTŀcôTŀaĢP+DICƉȗaĀü ǈáÄTURNSTI<aÈĀü ÃTURNSTI<aĀü ÈÃTURNSTI<aÈĀü ÈÃ",
    "TURNSTI<aƇDASH FROM ÃMEMBþØÈƮ.aSǣćTŀ&ƃücôTŀ&UND_üfã,ǣćTŀaÈćTŀbôTŀaĘȑNOTÂaŰĘȑNOTÂaDOES ǟDIV",
    "IDĂŰNEGì,~SHaĀķ&űŒdøĬaćTŀ&øĬaĚ.<ǍǞƛeȃǯaǈáĀü īARY RE~ĳe&ǞƛcCǤ ǯcNESTÀƠhƣaĘ-ķ,L$TÀƠ OR Ĺiƣ O",
    "R Ĺaǈ<,OLIDUS īARY RE~ĳaŚ ǈáĀü ǯaĘ,OLIDUS ǯa×ĀüaN-ARY ×ĀüaǖƜ×ÅbǇ×ÅaSǆƜ×ÅcǇ×ÅaÃÄ×ÅaíîÅaĻîÅa",
    "ĶîÅaǖƜîÅbǇîÅaSǆƜîÅcǇîÅaÃÄîÅaôćîÅaŐ&TIP ƈWǩgUPWǩaíŇTIP ƈWǩgUPWǩaSŕĂń ȄȏdBOTTOM ȄȏdĿÄǡÆȄȏdēÃ",
    "ǡÆȄȏaƼ&ÃȄȏcÄȄȏcń ȄȏcBOTTOM ȄȏaǾEDģaîŚģa×ŚģaîŵYœģa×ŵYœģaîP+*GONa×P+*GONbHEXAGONaîHEXAGONaƟî",
    "HEXAGONaîŚȈbħ Ƽa×ħ Ƽaîħ LOZ+GEa×ħ LOZ+GEaĜßƼcLOZ+GEaƸßLOZ+GEaîƟELLIPSEa×ƟELLIPSEaîĀELLIPSE",
    "a×ĀELLIPSEaÃďƴœȈaÿíÅSaÃŇøD ǳaƇíSQUIGGáÅaíČȔŇƮƛeÈƮƛdďFROMĎdǈáDASH ÅbŇǾEDřEMcŅ&ƮƛeÈƮƛbČȔŇŅf&",
    "ƮƛgÈƮƛbďTHROUGH XaWAŲď÷DIRECTLY ĒaƽSÊőíÅaȊS^ȃǯ őíÅaíďőȊS^.MOST ĹaŐ THROUGH ƣj,ǱSETaíQUADRU",
    "PáÅaĵQUADRUPáÅaȊS^ȃǯ őŐaŐ őȊS^.MOST Ĺaȃǯ őíÅaíďő.MOST ĹdȊS^ȃǯaŐ őȊS^ȃǯaĶŴZIGZAG ÅaSǣSL$TÀǖ",
    "ÅcBŀSL$TED,ǆÅa×ħƙaĜœƙaƸœƙaîǶ÷P+*GONa×Ƕ÷P+*GONaéŚȈbOV.&OVÆ%SIDEaǗȈ&ű%SIDEccD,.TIREaSL$TÀǖÅś",
    "ÀHEADaBŀSL$TED,ǆÅśÀŅaSL$TÀǖŇƟŅaBŀSL$TED,ǆŇƟŅbǲď÷ĶTH+ ǖEASTaSǣBǲď÷ĶTH+ ǖEASTaíŴÅaĻŴÅaĵŴÅaĶŴ",
    "ÅaÃÄŴÅaôćŴÅaǖǇŴÅbƜŴÅaSǆƜŴÅcǇŴÅaíŴDASHÀÅaĻŴDASHÀÅaĵŴDASHÀÅaĶŴDASHÀÅaCǁWIS^Ŵġ űÅa$ňǁWIS^Ŵġ ű",
    "ÅaíŴďTOĎaĻŴďTOĎaĵŴďTOĎaĶŴďTOĎ"]),
  (0x2b76, [
    "ǖǇŴďTOĎbƜŴďTOĎaSǆƜŴďTOĎcǇŴďTOĎaíŴŇÈǞƛaĻŴŇÈǞƛaĵŴŇÈǞƛaĶŴŇÈǞƛaƟ*B KEYaĀ*B KEYaíŴďȐĵŴÅaĻŴďíØĶŴ",
    "ÅaĵŴďȐíŴÅaĶŴďíØĻŴÅaíŴPAIRÀÅSaĻŴPAIRÀÅSaĵŴPAIRÀÅSaĶŴPAIRÀÅSaíĜȈD ×ÅaĻĜȈD ×ÅaĵĜȈD ×ÅaĶĜȈD ×Å",
    "a$ňǁWIS^ŴÄU-S!PÀÅiBOTTOM U-S!PÀÅiÃU-S!PÀÅiń U-S!PÀÅaRETURN ĒhàaNEWǒĒeàaŭCORNþÅS CIRCLÁ$ňǁW",
    "ISEaĵîÅ"]),
  (0x2b97, [
    "SYMBOL ĝ TYP^A E<CTRONICSaƋ-D ń-ǘÀíEQUILǛÆšeǶǘÀĻEQUILǛÆšeń-ǘÀĵEQUILǛÆšeǢǘÀĶEQUILǛÆšaîíEQUI",
    "LǛÆšbĻEQUILǛÆšbĵEQUILǛÆšbĶEQUILǛÆšaĶŴŇƇTIP ĒWǩiàWǩaĻŴŇƇTIP ĒWǩiàWǩaíŴŇƇTIP UPWǩaĵŴŇƇTIP UP",
    "WǩaíŴŇƇTIP ƈWǩaĵŴŇƇTIP ƈWǩaîCURVÀĶÌíÅiŐgĻÌíÅiŐgíÌĻÅgĵÌĻÅgíÌĶÅgĵÌĶÅaRIBBÖďćĒhàgôĒhàgÃUPgÄUP",
    "gÃƈgÄƈaĻ×ďFROMĎ&Ɵüaôš şA RECTƯBOXaƃ~PPÁƸģSf×äȏģSeÉȏģSaBÜOT BOX&ŮXaøD XdBıXaĜǓñREDaîƼ ñREDa",
    "ŏîP+*GONaƟîOC*GONaîOC*GONbħ UP-÷ĕ ñREDdƈ-÷ĕ ñREDdǢ÷ĕ ñREDdǶ÷ĕ ñREDaNEPTUN^ƚ Čań ȄȏȈaBOTTOM",
    " ȄȏȈaŮŭŽÀîCUSPaƐŮŭŽÀîCUSPa×ŭŽÀCUSPaƐ×ŭŽÀCUSPaSŕ^POSIĳ %DIC>ORaUNC_*%TYÂaGROUPÏaPLUĨƚ ČgƋgƀ",
    "gǑaTR$SPLUTOaĭS_P%AaASTRAEAaHYGIEAaPHOLUSaNESSUSa×MOONõL+AaîƼ ÖǊaTRU^ŮMOÖAR*aCUPIDOa!DESaZ",
    "EUSaKRONOSaAPOLǄbDMETOSaVULC$USaPOSEIDONaÃȄȏƙaÄȄȏƙaS*R&ÃȄȏeÄȄȏaíČȔŇĕ šSaĻČȔŇĕ šSaĵČȔŇĕ šSa",
    "ĶČȔŇĕ šSa_IS ƚ ÍgČaSEDNAaRUSSIÓASTROLOGIC.ŢVIG%TI<sNOVI<sQU%TI<sīOVI<rÒ,+*GONrŢTREDECI<aƽƪ",
    "&%F%ITYĬaUNITEDÒaSEĚ>EDÒaĘDÒaPASSEDÒaŰÄÎ<aHELLSCHREIBþPAUSEÒaG~GOLIňƌZUh|BUKYiVEDEiG~GOLIi",
    "DOBROiYESTUiZHIVETEiDZELOiZEMLJAiIZHEi%ITIÆIZHEiIiDJ_VIiKAKOiLJUDIJEiMYSLITEiNASHIiONUiPOK",
    "OJIiRITSIhŷLOVOh|TVRIDOiUKUiFRITUiH_UiOTUiPEhŷH*h|TSIiCHRIVIhŷ!h|Y_UkIj>IhŷPID_Y !h|YUhǮūY",
    "USm&Ņh|YOiIOT>EDßYUSiBIG YUSiIOT>ÀBIG YUSiFI*iIZHITSAhŷH*PICh|TROKU*STI Aiƨ>^MYSLITEiCAUD>",
    "^CHRIVIhƂZUh;BUKYiVEDEiG~GOLIiDOBROiYESTUiZHIVETEiDZELOiZEMLJAiIZHEi%ITIÆIZHEiIiDJ_VIiKAKO",
    "iLJUDIJEiMYSLITEiNASHIiONUiPOKOJIiRITSIhŎLOVOh;TVRIDOiUKUiFRITUiH_UiOTUiPEhŎH*h;TSIiCHRIVI",
    "hŎ!h;Y_UkIj>IhŎPID_Y !h;YUhßūYUSm&Ņh;YOiIOT>EDßYUSiBIG YUSiIOT>ÀBIG YUSiFI*iIZHITSAhŎH*PIC",
    "h;TROKU*STI Aiƨ>^MYSLITEiCAUD>^CHRIVIaƨ|ǍĘĎb;ǍĘĎb|ǍðƍcP ĐcR&ŅbƂ Đb;Ǩǡƛb|ÞȀb;ÞȀb|K&Ȁb;K&Ȁb|",
    "Z&Ȁb;Z&Ȁb|.ącMścŏAd.ąb;V&Äăb|Wśb;WścV&ƶb|āHb;āHcŅ<ưPHIcĂNOTCHcŏR&ŅcŸėŻ%SIDEb ūŤŏEbƒSCRIPT;",
    "JaMODIFI_:ŤVaƨŷ&SWASH Ņb|Z&SWASH ŅaCOPň|.FAe;.FAe|VIDAe;VIDAe|GAM=e;GAM=e|D.DAe;D.DAe|EIEe",
    ";EIEeŷOUeŎOUe|ZA*e;ZA*e|H>Ee;H>Ee|THETHEe;THETHEe|IAUDAe;IAUDAe|KAPAe;KAPAe|~U~e;~U~e|MIe;",
    "MIe|NIe;NIe|KSIe;KSIe|Oe;Oe|PIe;PIe|ROe;ROeŷI=eŎI=e|*Ue;*Ue|UAe;UAe|FIe;FIe|KHIe;KHIe|PSIe",
    ";PSIe|OOUe;OOUe|DIĖCT-P ĖFe;DIĖCT-P ĖFe|ıCOPTÕA%e;ıCOPTÕA%e|CRYPTOGRAMMÕEIEe;CRYPTOGRAMMÕE",
    "IEe|DIĖCT-P KAPAe;DIĖCT-P KAPAe|DIĖCT-P NIe;DIĖCT-P NIe|CRYPTOGRAMMÕNIe;CRYPTOGRAMMÕNIe|ıC",
    "OPTÕOOUe;ıCOPTÕOOUeŷAMPIeŎAMPIe|ǊEDŪIe;ǊEDŪIe|ıCOPňŪIe;ıCOPňŪIe|ıCOPTÕESHe;ıCOPTÕESHeƌKHMI",
    "MÕKHEIeƂKHMIMÕKHEIe|DIĖCT-P ĞIe;DIĖCT-P ĞIe|ıCOPTÕĞIe;ıCOPTÕĞIe|ıCOPTÕ!e;ıCOPTÕ!e|L-S!PÀ!e",
    ";L-S!PÀ!e|ıCOPTÕHEIe;ıCOPTÕHEIe|ıCOPTÕH>e;ıCOPTÕH>e|ıCOPTÕGÎIAe;ıCOPTÕGÎIAe|ıCOPTÕDJAe;ıCO",
    "PTÕDJAe|ıCOPň,HI=e;ıCOPň,HI=e|ıNUBI$,HI=e;ıNUBI$,HI=e|ıNUBIÓNGIe;ıNUBIÓNGIe|ıNUBIÓNYIe;ıNU",
    "BIÓNYIe|ıNUBIÓWAUe;ıNUBIÓWAUeŢKAIfMI ROfPI ROeÒ,*UROSeŢ*U ROfKHI ROeÒ,HI=Ľ=e|CRYPTOGRAMMIC",
    "ŪIe;CRYPTOGRAMMICŪIe|CRYPTOGRAMMÕGÎIAe;CRYPTOGRAMMÕGÎIAeǋīÁNIãgÉ,PIRITUS ASĢqL+ISe|BO!IRÕK",
    "HEIe;BO!IRÕKHEI"]),
  (0x2cf9, [
    "COPTÕıNUBIÓǠlDIRECT QUESĳÏl%DIRECT QUESĳÏlŵS^DIVID_fFRAŜ ÙȄfǠfMORPHOLOGǃDIVID_aGEORGI$;$iB",
    "$iG$iDONi+iV%iZ+iT$i%iK$i~SiM$iNARiONiĚiZ!RiRAEhŎ$h;*RiUNiąRiÚRiGH$iQARhŎH%h;CH%j$iJILiCIL",
    "iÔRiX$iJH$i!EiHEjIEiWEi!RiHOE"]),
  (0x2d27, ["GEORGI$;YN"]),
  (0x2d2d, ["GEORGI$Ƃ+"]),
  (0x2d30, [
    "TIF%AGH:YAkBlHkGlHHiB_BþACADEMY YAJiYAJkDlHlDmHjEYjAFkKiTUAREG YAKiYAKHHkHiB_BþACADEMY YAH",
    "iTUAREG YAHiYAHHkAkKHiTUAREG YAKHiYAQiTUAREG YAQiYIjAZHhÇ!GGAR YAZHh:TUAREG YAZHiY.jAMj$iT",
    "UAREG YAGNqÎiYAPjUjARlRkGHiTUAREG YAGHhÇYþYAGHh:YASlSlHj>kHjACHj>TjAVkWkYkZi*WEL<MET YAZiY",
    "AZZjEjO"]),
  (0x2d6f, ["TIF%AGH MODIFI_:~BI.IZŗhõĚ>ORÏ"]),
  (0x2d7f, [
    "TIF%AGH CONSON$T JO%_aETHIOPICƝLOAjMOAjROAjSOAkHOAjBOAjTOAjCOAjNOAkYOAjGLOTTÆOAjZOAjDOAkDO",
    "AjJOAjTHOAjCHOAjPHOAkOAjGGWAmImEEn"]),
  (0x2da0, ["ETHIOPICƝSSAlUlIlAAlEEmlO"]),
  (0x2da8, ["ETHIOPICƝCCAlUlIlAAlEEmlO"]),
  (0x2db0, ["ETHIOPICƝZZAlUlIlAAlEEmlO"]),
  (0x2db8, ["ETHIOPICƝCÔkCHUmIkÔAkëElkCHO"]),
  (0x2dc0, ["ETHIOPICƝQYAlUlIlAAlEEmlO"]),
  (0x2dc8, ["ETHIOPICƝKYAlUlIlAAlEEmlO"]),
  (0x2dd0, ["ETHIOPICƝXYAlUlIlAAlEEmlO"]),
  (0x2dd8, ["ETHIOPICƝGYAlUlIlAAlEEmlO"]),
  (0x2de0, [
    "đīƵYRILLIC:BElVElGHElDElZHEmElKAlELmMl+lOlPEl_lESlTEl!lTSElëiÕƤ!kHÔiIC:FI*lES-TEkÇk:IElDJ_",
    "VlMONOGRč UKlY>mUlIOTIǻAlƦáYUSlBIG YUSlIOTIǻBIG YUSaÄÎ<ƒSTITUĳÏ_bƯǾEDƒSTITUĳÏ_aĒƒSTITUĳ ïa",
    "àƒSTITUĳ ïaÃǾEDƒSTITUĳ ïaÄǾEDƒSTITUĳ ïaRAISÀ%ÛPOLŗ_fǾÀ%ÛPOLŗ_aǾÀTR$SPOSIĳÏ_aÃTR$SPOSIĳ ïaÄ",
    "TR$SPOSIĳ ïaRAISEDģaÃRAISÀOMISSIÖïaÄRAISÀOMISSIÖïaEDITORIÆCORONISaĚAGRčOSaĝKÀĚAGRčOSaŰĝKÀĚ",
    "AGRčOSaHYPODIASTO<aǾÀOBELOSaĶ$CORAaĻ$CORAaǾÀǶ÷Î<aÈOBLIQU^HYPH+aƖ%ÛROBÎaP.M BR$CHaHYPH+&ţaƍ",
    "&ŻŒaÃėĚčRAS^ïaÄėĚčRAS^ïaƍſbƓaÃĀü&QUILLaÄĀü&QUILLań ÃāïcÄāïaBOTTOM ÃāïhÄāïaĒĽDEWAYS U ïaàĽD",
    "EWAYS U ïaÃÈǏSISaÄÈǏSISaæǅȐÙƲPǷaÙƲȐæǅPǷaSŕÀŭƲPǷaťöÏaŰQUESĳÏaĀƍaŻŽaWORDõĚ>ORȋöaŏđ=aRAISÀöeE",
    "Dǋ=aŏSEMICǤaDAGG_&ÃGUŞgÄGUŞaŏDAGG_ań ȄõŜÂaČ-EM DASHaƋ-EM DASHaSĮOGRčÕǠaƮ.ż öSaWIGGLY ĀķaCA",
    "PITULUMaÈHYPH+aŰđ=aÈǹ-ȊSED-9 QUOTŗaDASÞÃUPTURNaĘ,USP+SŖÏaƖėKAVYKAi&KAVYKAãaėKAVYKAh&öaĘřŀE",
    "Dǋ=aǾED,OLIDUSaǈáDAGG_aMEDIEV.ǋ=aĚAGRčUSÏaPUNCTUS E<V>USÏaCORNĆ ŵS^DIVID_aǊ P>TY&ÄǊühÃǊüaT",
    "IRONI$ÂǮETaMEDIEVÆEXCóŗhQUESĳÏaĒǓï ĐaàǓï ĐaĒǓï&ĘȆaàǓï&ĘȆań āÃǏSISdÄǏSISaBOTTOM āÃǏSISiÄǏSI",
    "SaOBLIQU^HYPH+"]),
  (0x2e80, [
    "CJK RADǃREPE>iCLIFFiSECOND ÍpČpƋiĢSONiBOXi*B<iKNIF^ÍnČiDIV%ìiSE.hIC.ßÍlČhǃó^ÍkČkƋkƀiSNAKEi",
    "THREADiSNOUT ÍoČiǐT ÍlČiHäiRAP"]),
  (0x2e9b, [
    "CJK RADǃCHOKEiSUNiMOONiDE>HiMOTH_iCIVILI$iWAơÍlČiFIREiPAW ÍmČiSIMPLIǻāTRE^TRUNKiCOWiDOGiJA",
    "DEiBOLT ØCLOTHiEYEiSPIRIT ÍpČiBAMBOOiSILKiC-SIMPLIǻSILKiNET ÍmČmƋmƀiMESHhIC.ŪEPhǃRAMiEWEiO",
    "LDiBRUSH ÍoČiME>jOR*RiGRAưÍmČmƋiTIG_iCLOTHESiǇÍjČiC-SIMPLIǻSEEiSIMPLIǻĞNiĞNiC-SIMPLIǻSPEEC",
    "HsHELLiFOOTiC-SIMPLIǻCARTiSIMPLIǻW.KiW.K ÍmČiCITYj-SIMPLIǻGOLDiƇÍjČiC-SIMPLIǻȇrG>EiMĊD ÍmČ",
    "iRA%iBLUEiC-SIMPLIǻT$NÀ<>H_r<AFrW%DrFLYiE> ÍlČlƋiC-SIMPLIǻE>iHEADiC-SIMPLIǻĞSEiBÍiGHOSTiC-",
    "SIMPLIǻFĆrBIRDrS.TiSIMPLIǻWHE>pYELǹiC-SIMPLIǻFROGiJ-SIMPLIǻEV+iC-SIMPLIǻEV+iJ-SIMPLIǻTOOTH",
    "iC-SIMPLIǻTOOTHiJ-SIMPLIǻDRAGONiC-SIMPLIǻDRAGONiTURT<iJ-SIMPLIǻTURT<iC-SIMPLIǻTURT<"]),
  (0x2f00, [
    "KÎXI RADǃÍjķjöjS~SHkECONDjăjČjLIDjM$j<GSj+ÛjĈjćBOXjCƃjICEj*B<jġ BOXjKNIFEjPOW_jWRAPjSPOONj",
    "Äġ BOXjHIDÁ+CLOSUREjĮjDIV%ìjSE.jCLIFFjPRIV>EjAGA%jMOUTHj+CLOSUREjEARTHjSCHO~RjGOl,ǹLYjEV+É",
    "jBIGjWOM$jCHILDjROOFj%CHiIC.œiǃóEjCORPSEjSĭUTjMĊ*%jRIŵjWORKjÍSELFjTURB$jDRYjSǣTHREADjǾÀCLI",
    "FFjȇřRIDEjæHäSjSHOOTjBOWjSNOUTjBRIST<jSTEPjǐTjH.B_DjDOORjHäjBR$CHjRAPjSCRIPTjDIPĢjAXEiIC.ģ",
    "iǃNOTjSUNkAYjMOONjTREEjLŀjSńjDE>HjWEAPONjDO NOTjđĚEjFURjCL$jSTEAMjWǛjFIREjC~WjF>H_jÈXjāTRE",
    "^TRUNKjSLICEjFÎjCOWjDOGjĭFĊDjJADEjMEǄjTI<jSWEETjLIFEjUSEjFIELDjBOLT ØCLOTHjSICKNESSjǾÀTâjƸ",
    "jSK%jDĆjEYEjSPEARjÅjSTÍkPIRITjTRŀjGRA%jCAVEjSTäjBAMBOOjRICEjSILKjJARjNETiIC.ŪEPiǃFE>H_jOLD",
    "jäjPǹjEARjBRUSHjME>k%ISÛjSELFjARRIVEjMOR*RiICȚNGUEiǃOPPOSEjBO>jSńPÉjCOLORjGRASSjTIG_j%SECT",
    "jBLOODjW.K +CLOSUREjCLOTHESjWESTjSEEjĞNjSPEECHjV.<YjBE$jPIGjBADG_iIC.ŪLLiǃREDkUNjFOOTjBODY",
    "jCARTjBITÛjMORNÉjW.KjCITYjW%EjDISTÉUĆjVIĪGEjGOLDjȇjG>EjMĊDjS~VEkǣŅÀBIRDjRA%jBLUEjWRONGjòj<",
    ">H_jT$NÀ<>H_j<EKjSĊDj<AFjW%DjFLYjE>jHEADjFRAGR$TjĞSEjBÍjTÜj!IRjFIGHTjSACRIFICIÆW%EjCAULDRO",
    "NjGHOSTjFĆjBIRDjS.TjDE_jWHE>jHEMPjYELǹjMIL<TjĜjEMBROID_YjFROGjǈODjDRUMjR>jNOSEjEV+iICȚOTHi",
    "ǃDRAGONjTURT<jFLUTE"]),
  (0x2ff0, [
    "IDEOGRčÕDESCRIPĳ ÔRACơÃĨàwőTOĬwÃTOȋÌàwőTOȋäĬwFULL,URRĊDvÛ,URRĊD FROMãzRĊD FROMĬzRĊD FROM Ē",
    "zRĊD FROM ĿĒzRĊD FROM ĿàzRĊD FROM ēĒvơƃ~ID"])]

end Monomorph.Text.CharacterName
