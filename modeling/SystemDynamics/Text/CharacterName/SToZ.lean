/-!
# Names of characters, S to Z

The names of the characters of Unicode 14 and their other names that begin with the letters S to
Z, in order. Small letters before a name say how many characters it shares with the name before
it: `a` is none, `b` is one, and a `z` adds 25 to the letter behind it. What follows is the rest of
the name. Names that are written by a rule are left out.
-/

namespace SystemDynamics.Text

/-- The names, a piece a line; names go on from one line to the next. -/
def namesSToZ : List String :=
  ["aS IN TRIANGLEbAFETY PINhVESTcGITTARIUScILBOATcKE BOTTLE AND CUPcLT SHAKEReIREdUTING FACEcMARI",
   "TAN ABBREVIATION MARKkLETTER ALAFrBAAsITrDALATrFIrGAMANrINsTsYrKAAFrLABATrMIMrNUNrQUFrRISHrSHA",
   "NsINGAATrTAAFsITsSAADIYrYUTrZENkMARK DAGESHpEPENTHETIC YUTpINr-ALAFpNEQUDAApOCCLUSIONlODIFIER ",
   "LETTER EPENTHETIC YUTzbIzbSHORT AkPUNCTUATION AFSAAQxNGEDyNAAUxRKAANUxTMAAUwBAUwMELODIC QITSAw",
   "NEQUDAAwQITSAwSHIYYAALAAxOF MASHFAATwTURUwZAEFxIQAAkVOWEL SIGN AwAvEvIvLONG AzcAzbEzbIzbUvOwVE",
   "RLONG AzgAvSHORT AwUKUNvUcNDWICHdS-SERIF HEAVY DOUBLE COMMA QUOTATION MARK ORNAMENTyTURNED COM",
   "MA QUOTATION MARK ORNAMENTrLOW DOUBLE COMMA QUOTATION MARK ORNAMENTlINTERROBANG ORNAMENTcRIcTE",
   "LLITEj ANTENNAdURNcURASHTRA CONSONANT SIGN HAARUlDANDAmIGIT EIGHTrFIVEsOURrNINErONErSEVENsIXrT",
   "HREEsWOrZEROmOUBLE DANDAlLETTER AtAtItUsBAtHAsCAtHAsDAtDAuHAtHAsEtEsGAtHAsHAsItIsJAtHAsKAtHAsL",
   "AtLAsMAsNAtGAtNAtYAsOtOsPAtHAsRAsSAtHAtSAsTAtHAtTAuHAsUtUsVAtOCALIC LzcLzbRzcRsYAlSIGN ANUSVAR",
   "AqCANDRABINDUqVIRAMAsSARGAlVOWEL SIGN AAxIxUwExEwIxIwOxOwUxUwVOCALIC LzgLzfRzgReOPODcXOPHONEbC",
   "ALESdRFcHOOLg SATCHELcIcOOTERdRPIONgUScREENeWDRIVERdIPT CAPITAL BpEpFpHpIpLpMpPpRhLIGATURE ET ",
   "ORNAMENThSMALL EnGnLnOdOLLdUPLEbEALdTcCOND PLACE MEDALdTION SIGNeORcDNAcE-NO-EVIL MONKEYdDLING",
   "cGMENThED DIGIT EIGHTqFIVErOURqNINEqONEqSEVENrIXqTHREErWOqZEROcLFIEcMICOLONeDIRECT PRODUCT WIT",
   "H BOTTOM CLOSEDeSEXTILEcPARATED SYMBOLcRIOUS FACE WITH SYMBOLS COVERING MOUTHdVICE MARKcSAME D",
   "OTdQUIQUADRATEcT MINUSeTRANSMIT STATEcWING NEEDLEcXTILEbGCbHADOWED WHITE CIRCLEpLATIN CROSSpST",
   "ARdLLOW PAN OF FOODdMROCKdRADA ABBREVIATION SIGNiCONTINUATION SIGNiDANDAjIGIT EIGHToFIVEpOURoN",
   "INEoONEoSEVENpIXoTHREEpWOoZEROjOUBLE DANDAiEKAMjXTRA SHORT VOWEL MARKiHEADSTROKEiLETTER AqAqIq",
   "UpBAqHApCAqHApDAqDArHAqHApEpGAqHApHApIqIpJAqHApKAqHApLAqLApMApNAqGAqNAqYApOpPAqHApRApSAqHAqSAp",
   "TAqHAqTArHApUqUpVAqOCALIC LyLxRyRpYAiOMiSANDHI MARKjECTION MARK-1v2kPARATORjIGN ANUSVARAoVAGRA",
   "HAnCANDRABINDUnINVERTED CANDRABINDUnJIHVAMULIYAnNUKTAnSIDDHAMnUPADHMANIYAnVIRAMApSARGAjUTRA MA",
   "RKiVOWEL MODIFIER MARKoSIGN AAuIuUtEtIuItOtPRISHTHAMATRA EtUuUtVOCALIC LzdLzcRzdReKdVED ICEeIA",
   "N LETTER ADOqGEqHqIRqRErRAYqSHqWEpBIBpCHURCHpDEADpEARrTqGGqRRpFEEpGAGpHA-HAqUNGpIANqCEqFpJUDGE",
   "pKICKpLOLLpMEASUREqIMEpNUNpOAKqILqNqOZEqRqUTpPEEPpROARpSOqUREpTHEYrIGHqOTpUPpVOWpWOErOLpYEArWp",
   "ZOOcEEPcIELDdFT INgOUTdNTO SHRINEdPcOCKED FACE WITH EXPLODING HEADdOTING STARdPPING BAGSjTROLL",
   "EYdRT BACKSLANTED SOUTH ARROWhENT ARROW POINTING DOWNWARDS THEN NORTH EASTgDOWN TACKp WITH OVE",
   "RBARgLEFT TACKgRIGHTWARDS ARROW ABOVE LEFTWARDS ARROWgSLANTED NORTH ARROWgUP TACKn ABOVE SHORT",
   " DOWN TACKoWITH UNDERBARfCAKEfHAND FORMAT CONTINUING OVERLAPrDOWN STEPrLETTER OVERLAPrUP STEPf",
   "SdULDERED OPEN BOXdWERcRIMPdUGcUFFLE PRODUCTcYbIcDDHAM DANDAjOUBLE DANDAiEND OF TEXT MARKiLETT",
   "ER AqAqIqLTERNATE UqUpBAqHApCAqHApDAqDArHAqHApEpGAqHApHApIqIpJAqHApKAqHApLApMApNAqGAqNAqYApOpP",
   "AqHApRApSAqHAqSApTAqHArREE-CIRCLE ALTERNATE IqTArHAqWO-CIRCLE ALTERNATE IzmIpUqUpVAqOCALIC LyL",
   "xRyRpYAiREPETITION MARK-1y2y3iSECTION MARK DOUBLE RINGzh WITH RAYSvWITH CIRCLES AND FOUR ENCLO",
   "SURESznRAYSznTWO ENCLOSURESzbDOUBLE CRESCENTSzbQUADRUPLE CRESCENTSzbRAYS AND DOTTED CRESCENTSz",
   "rDOUBLE CRESCENTSzrTRIPLE CRESCENTSzbSEPTUPLE CRESCENTSzbTRIDENT AND DOTTED CRESCENTSznU-SHAPE",
   "D ORNAMENTSzePLE CRESCENTSkPARATOR BARsDOTjIGN ANUSVARAnCANDRABINDUnNUKTAnSIDDHAMnVIRAMApSARGA",
   "iVOWEL SIGN AAuIuLTERNATE UzfUuUtEtIuItOtUuUtVOCALIC RzdRdEWAYS BLACK DOWN POINTING INDEXpLEFT",
   " POINTING INDEXpRIGHT POINTING INDEXpUP POINTING INDEXjWHITE DOWN POINTING INDEXpLEFT POINTING",
   " INDEXpRIGHT POINTING INDEXpUP POINTING INDEXcGN OF THE HORNSeWRITING AIR BLOW SMALL ROTATIONS",
   "uING OUTqSUCK SMALL ROTATIONSuING INmBREATH EXHALEtINHALEoUSH BETWEENsMULTIPLEsSINGLEmCHEEKS N",
   "EUTRALtPUFFEDtSUCKEDnOLONoMMAmDREAMY EYEBROWS DOWN NEUTRALzdNEUTRAL DOWNzlUPzdUP NEUTRALnYNAMI",
   "C ARROWHEAD LARGEzfSMALLuEVERY OTHER TIMEuFASTuGRADUALuRELAXEDuSIMULTANEOUSzh ALTERNATINGvLOWu",
   "TENSEmEARSnXCITEMENTnYE BLINK MULTIPLEwSINGLEqWINKpBROWS STRAIGHT DOWNzfNEUTRALzfUPpGAZE-FLOOR",
   "PLANE CURVEDzgSTRAIGHTzo ALTERNATINGzpDOUBLEuWALLPLANE CIRCLINGzgURVEDzfSTRAIGHTzn ALTERNATING",
   "zoDOUBLEpLASHES DOWNwFLUTTERINGwUPpS CLOSEDrHALF CLOSEDwOPENrOPENrSQUEEZEDrWIDE OPENvNING MOVE",
   "MENTmFACE DIRECTION POSITION NOSE FORWARD TILTINGzqUP OR DOWNzzb TILTINGnILL MODIFIER-2zb3zb4z",
   "b5zb6oNGERnLICK LARGE MULTIPLEySINGLEsSEQUENTIALtMALL MULTIPLEySINGLEoOORPLANE SHOULDER HIP MO",
   "VEnOREHEAD CONTACTvNEUTRALvWRINKLEDnULL STOPmGRASP BETWEENsMULTIPLEsSINGLEmHAIRoND-ANGLEw INDE",
   "Xzd MIDDLE LITTLEzlRINGzeRING LITTLEzp OUTzeTHUMBzj INzkOUTxLITTLE INDEXzk THUMB INDEX THUMBzz",
   "d OUTzfUPxMIDDLE RING LITTLEzq INzrOUTxRING DOWN MIDDLE THUMB INDEX CROSSzdLITTLErCIRCLEx INDE",
   "Xze BENTzfHINGEzfMIDDLEzl CROSS LITTLEzrEDzmLITTLEzmRINGzmTHUMBzfRING LITTLEyLITTLE INDEXzgUPy",
   "MIDDLE RING LITTLEzr BENTzgUPyRING LITTLEsLAWv FOUR FINGERS CONJOINEDwINDEX THUMB CURVE THUMB ",
   "INSIDEwMIDDLE RING LITTLE CONJOINEDzza SIDEwNO THUMBwTHUMB FORWARDzdSIDEsUPu FIVE FINGERS SPRE",
   "ADzp OPENvINDEXzb RING LITTLEzcTHUMBzh OPENvMIDDLE RING LITTLEvNO THUMBvOPENza NO THUMBzbTHUMB",
   " FORWARDzhSIDEvTHUMB FORWARDzcSIDEtRLICUEza INDEX RING LITTLE ONzbMIDDLE RING LITTLE ONzbOPENr",
   "FISTv FOUR FINGERS CONJOINED BENTwHEELwINDEXzc BENTzh OVER MIDDLEzdCUPPEDzdHINGEDzj LOWzkMIDDL",
   "E UPzt THUMB SIDEzdMIDDLEzj BENTzo THUMB STRAIGHTzkCONJOINEDzt CUPPEDzzb THUMB FORWARDzuHINGED",
   "zzb THUMB SIDEzuINDEX BENTzuMIDDLE BENTzuTHUMB FORWARDzzbSIDEzzf BENTzzgCONJOINEDzlROSS LITTLE",
   "zpEDzr THUMB SIDEzkHINGEDzq SPREAD THUMB SIDEzkLITTLEzkRAISED KNUCKLESzlINGzo BENTzpCONJOINEDz",
   "kSTRAIGHT THUMB BENTzkTHUMBzp ANGLEDzw OUTzqBENTzqCIRCLEDzrONJOINED HINGEDzrUPPEDzqHINGEDzrOOK",
   "EDzkUP SPREAD THUMB FORWARDzdRAISED KNUCKLEzeING LITTLEzdTHUMB ANGLED IN MIDDLE UPzqOUT MIDDLE",
   " UPzjCIRCLEzpD MIDDLE UPzkUPPED MIDDLE UPzlRLICUEzmVE THUMB INSIDEzvUNDERzjFORWARD INDEX BENTz",
   "xSTRAIGHTzjHOOKznED MIDDLE HINGEDzxUPzjSIDEzn BOTH BENTzoINDEX BENTzuHINGEzoTHUMB BENTzuCONJOI",
   "NEDzuDIAGONALzdUP MIDDLE HINGEDzt THUMB CONJOINEDzzbSIDEwLITTLE BENTzeDOWNzi OTHERS CIRCLEDzjR",
   "IPPLE CURVEDzqSTRAIGHTzeINDEXzj THUMBzeRAISED KNUCKLEzeTHUMBzfOUCHES THUMBzeUPwMIDDLE BENT OVE",
   "R INDEXzeDOWNzeLITTLEzeRAISED KNUCKLEzfING LITTLEzeTHUMB ANGLED INDEX UPzrOUT INDEX CROSSEDzzc",
   "UPzkCIRCLED INDEX HINGEDzyUPzlUPPED INDEX UPzkHOOKED INDEX UPzkLITTLEzeUPzg THUMB SIDEwRING DO",
   "WNzcINDEXzcLITTLEzcMIDDLEzi CONJOINEDzjRAISED KNUCKLESzcRAISED KNUCKLEzcTHUMBzcUPwTHUMBzc BETW",
   "EEN INDEX MIDDLEzx STRAIGHTzlMIDDLE RINGzlRING LITTLEzdFORWARDzdHEELzdOVER FOUR RAISED KNUCKLE",
   "SziTWO FINGERSzdSIDE BENTziCONJOINEDziDIAGONALzdUNDER FOUR FINGERSzjINDEX BENTzjLITTLE UPzjTHR",
   "EE FINGERSzkWO FINGERSsLATv BETWEEN PALM FACINGSwFIVE FINGERS SPREADzq BENTzrFOUR BENTzrHINGED",
   "zx NO THUMBzyTHUMB SIDEzrTHUMB FORWARDxOUR FINGERSzj BENTzkCONJOINEDzt SPLITzkHINGEDwHEELzb FI",
   "VE FINGERS SPREADzv BENTzwFOUR BENTzcTHUMB SIDEwSPLIT CENTREzj THUMB SIDEzu BENTzdINDEX THUMB ",
   "SIDEzdLITTLEwTHUMB BENTzdFORWARDzdSIDErHINGEw FIVE FINGERS SPREAD OPENyOUR FINGERS CONJOINEDxI",
   "NDEXzd HINGEDzeMIDDLE LITTLEzlRINGzp CONJOINEDzeRING LITTLEzeTHUMBzj LARGEzkOPENzkSIDEzlMALLxL",
   "ITTLEze INDEXzk THUMBzfTHUMBxMIDDLEze RING LITTLExNO THUMBxOPENzc NO THUMBzdTHUMB FORWARDzjSID",
   "ExRINGzc DOWN INDEX THUMB HOOK MIDDLExSMALLxTHUMB BETWEEN MIDDLE RINGzeSIDEzi TOUCHING INDEXsO",
   "OKv CURLICUEwINDEX RING LITTLE INzpOUTzpUNDERwMIDDLE RING LITTLE CONJOINEDzza INzzbOUTzeTHUMBw",
   "RING THUMBrOVALv FIVE FINGERS SPREADwINDEXwLITTLE UPwNO THUMBwRING LITTLEwTHUMB FORWARDzdSIDEn",
   "EADq MOVEMENT CIRCLEza-FLOORPLANE CURVEzmSTRAIGHTzbWALLPLANE CURVEzlSTRAIGHTzlTILTrRIMmLIMB CO",
   "MBINATIONrLENGTH-1y2y3y4y5y6y7oP LOWER OVER UPPERqUPPER OVER LOWERpS PRESSED TOGETHERnOCATION ",
   "DEPTHvHEAD NECKxIGHTvLIMBS DIGITSvTORSOvWIDTHu-FLOORPLANE SPACEvWALLPLANE SPACEmMOUTH CLOSED C",
   "ONTACTzaFORWARDzaNEUTRALtORNERSsFROWNx OPENyWRINKLEDsKISSw FORWARDxWRINKLEDsOPEN CIRCLExFORWAR",
   "DxOVALzc WRINKLEDzdYAWNxRECTANGLEzh WRINKLEDziYAWNxWRINKLEDsSMILEx OPENyWRINKLEDsTENSEx FORWAR",
   "DySUCKEDsWRINKLES DOUBLEzcSINGLEoVEMENT-DIAGONAL AWAY LARGEzpSTzkMEDIUMzkSMALLzfBETWEEN AWAY L",
   "ARGEzxSTzsMEDIUMzsSMALLznTOWARDS LARGEzzbSTzvMEDIUMzvSMALLzfTOWARDS LARGEzsSTznMEDIUMznSMALLvF",
   "LOORPLANE ARM CIRCLE HITTING WALL LARGE DOUBLEzzmSINGLEzzgMEDIUM DOUBLEzznSINGLEzzgSMALL DOUBL",
   "EzzmSINGLEzhBENDziOX LARGEzlMEDIUMzlSMALLzhCHECKziORNER LARGEzoMEDIUMzoSMALLziROSSziURVE COMBI",
   "NEDznHITTING CEILING LARGEzzeSMALLzvFLOOR LARGEzzcSMALLznLARGEzsSTznMEDIUMznSMALLzhDOUBLE ALTE",
   "RNATINGzza WRIST FLEXzoSTRAIGHTzoWRIST FLEXzhFINGER CIRCLES HITTING WALL DOUBLEzzkSINGLEzpONTA",
   "CTzhHUMP HITTING CEILING LARGE DOUBLEzzjTRIPLEzzdSMALL DOUBLEzzjTRIPLEzuFLOOR LARGE DOUBLEzzbS",
   "MALL DOUBLEzzbTRIPLE LARGE TRIPLEzziSMALL TRIPLEzmSMALLzhJAWzhLOOP HITTING CEILING LARGE DOUBL",
   "EzzjSINGLEzzdSMALL DOUBLEzzjSINGLEzuFLOOR LARGE DOUBLEzzhSINGLEzzbSMALL DOUBLEzzhSINGLEzmSMALL",
   "zhPEAKS LARGEznMEDIUMznSMALLzhSHAKING PARALLELziINGLE STRAIGHT LARGEzzdSTzxMEDIUMzxSMALLzoWRIS",
   "T FLEXzhTRIPLE ALTERNATING MOVEMENTzzbWRIST FLEXzoSTRAIGHT MOVEMENTzoWRIST FLEXzhWAVE HITTING ",
   "CEILING LARGEzzdSMALLzuFLOOR LARGEzzbSMALLzmLARGEzmSMALLznNAKEziRIST CIRCLE HITTING WALL DOUBL",
   "EzziSINGLEzhZIGZAG LARGEzoMEDIUMzoSMALLvHINGE DOWN SEQUENTIALzcSIDE TO SIDE SCISSORSzcUP DOWN ",
   "ALTERNATING LARGEzwSMALLzkLARGEzkSMALLzfSEQUENTIALvWALLPLANE ARM CIRCLE MEDIUM DOUBLEzySINGLEz",
   "rSMALL DOUBLEzxSINGLEzgBEND LARGEzlMEDIUMzlSMALLzhOX LARGEzkMEDIUMzkSMALLzgCHECK LARGEzmMEDIUM",
   "zmSMALLzhORNER LARGEznMEDIUMznROTATIONznSMALLzhROSSzhURVE HALF-CIRCLE LARGEzzeSTzyMEDIUMzySMAL",
   "LznITTING CHESTzuFRONT WALLzmQUARTER LARGEzzaSTzuMEDIUMzuSMALLzmTHEN STRAIGHTzoREE-QUARTER CIR",
   "CLE MEDIUMzziSMALLzlD CROSS MEDIUMztSMALLzgDOUBLE ALTERNATINGzy WRIST FLEXznSTRAIGHTznWRIST FL",
   "EXzgFINGER CIRCLES DOUBLEzvSINGLEzoONTACTzgHUMP HITTING CHESTztFRONT WALLzlLARGEzlMEDIUMzlSMAL",
   "LzgJAWzgLOOP HITTING CHESTztFRONT WALLzlLARGEzlMEDIUMzlSMALLzq DOUBLEzgPEAKS LARGEzmMEDIUMzmSM",
   "ALLzgSHAKINGzhINGLE STRAIGHT LARGEzzcSTzwMEDIUMzwSMALLznWRIST FLEXzgTRIPLE ALTERNATINGzy WRIST",
   " FLEXznSTRAIGHT MOVEMENTznWRIST FLEXzgWAVE CURVE DOUBLE LARGEzyMEDIUMzySMALLzrTRIPLE LARGEzyME",
   "DIUMzySMALLzlDIAGONAL PATH LARGEzzaMEDIUMzzaSMALLzlHITTING CHESTztFRONT WALLzhRIST CIRCLE FRON",
   "T DOUBLEzzaSINGLEzgZIGZAG LARGEznMEDIUMznSMALLmNECKnOSE CONTACTrNEUTRALrWIGGLESsRINKLESmPARENT",
   "HESISmROTATION MODIFIER-10zg1zg2zg3zg4zg5zg6zf2zf3zf4zf5zf6zf7zf8zf9u-FLOORPLANE ALTERNATINGzs",
   " HITTING CEILINGzzcFLOORzhDOUBLEzn HITTING CEILINGzwFLOORzhSINGLEzn HITTING CEILINGzwFLOORvWAL",
   "LPLANE ALTERNATEzoING HITTING CHESTzzbFRONT WALLzgDOUBLEzm HITTING CHESTzvFRONT WALLzgSINGLEzm",
   " HITTING CHESTzvFRONT WALLnUB BETWEENqMULTIPLEqSINGLEmSEMICOLONnHOULDER HIP POSITIONSzaSPINEvT",
   "ILTING FROM WAISTnQUEEZE FLICK ALTERNATINGuLARGE MULTIPLEzbSINGLEuSEQUENTIALvMALL MULTIPLEzbSI",
   "NGLEnTRIKE BETWEENtMULTIPLEtSINGLEnURFACE BETWEENuSYMBOLSmTEETHr BITE LIPSsMOVEMENTsON LIPSza ",
   "MOVEMENTvTONGUEzc MOVEMENToNSE CHEEKS HIGHzaLOWzaMIDDLEnONGUE CENTRE INSIDE MOUTHzbSTICKING OU",
   "TtINSIDE MOUTH RELAXEDtLICKING LIPStMOVES AGAINST CHEEKtSTICKING OUT FARtTIP BETWEEN LIPSxTOUC",
   "HING INSIDE MOUTHoRSO-FLOORPLANE TWISTINGsWALLPLANE CURVED BENDzdSTRAIGHT STRETCHoUCH BETWEENs",
   "MULTIPLEsSINGLEnRAVEL-FLOORPLANE ROTATION-FLOORPLANE ALTERNATINGzzaDOUBLEzzaSINGLEzoWALLPLANE ",
   "ALTERNATINGzyDOUBLEzySINGLEzfSHAKINGtWALLPLANE ARM SPIRAL DOUBLEzpSINGLEzpTRIPLEzeROTATION-FLO",
   "ORPLANE ALTERNATINGzyDOUBLEzySINGLEznWALLPLANE ALTERNATINGzxDOUBLEzxSINGLEzeSHAKINGmUPPER BODY",
   " TILTING FROM HIP JOINTSmWALLPLANE SHOULDER HIP MOVEcLHOUETTE OF JAPANcMILAR ABOVE GREATER-THA",
   "N ABOVE EQUALS SIGNoLESS-THAN ABOVE EQUALS SIGNiMINUS SIMILARiOR GREATER-THANlLESS-THANcNE WAV",
   "EdGLE CHARACTER INTRODUCERhGRAPHIC CHARACTER INTRODUCERhHIGH-REVERSED-9 QUOTATION MARKhLEFT-PO",
   "INTING ANGLE QUOTATION MARKiOW-9 QUOTATION MARKhRIGHT-POINTING ANGLE QUOTATION MARKhSHIFT THRE",
   "EoWOg-SHIFT-2n3dHALA ARCHAIC DIGIT EIGHTwFIVExOURwNINEwONEwSEVENxIXwTHREExWOqNUMBER EIGHTYxFIF",
   "TYyORTYxNINETYxONE HUNDREDzcTHOUSANDxSEVENTYyIXTYxTENyHIRTYyWENTYiLETTER AAYANNAqEEYANNArYANNA",
   "qIYANNAqLPAPRAANA BAYANNAzbCAYANNAzbDAYANNAzcDAYANNAzbGAYANNAzbJAYANNAzbKAYANNAzbPAYANNAzbTAYA",
   "NNAzcTAYANNAqMBA BAYANNAqUYANNAqYANNApDANTAJA LAYANNAxNAYANNAxSAYANNApEEYANNAqYANNApFAYANNApHA",
   "YANNApIIYANNAqLUUYANNAsYANNAqRUUYANNAsYANNAqYANNApKANTAJA NAASIKYAYApMAHAAPRAANA BAYANNAzcCAYA",
   "NNAzcDAYANNAzdDAYANNAzcGAYANNAzcJAYANNAzcKAYANNAzcPAYANNAzcTAYANNAzdTAYANNArYANNAqUURDHAJA LAY",
   "ANNAzaNAYANNAzaSAYANNApOOYANNAqYANNApRAYANNApSANYAKA DAYANNAyDAYANNAxGAYANNAxJAYANNApTAALUJA N",
   "AASIKYAYAxSANYOOGA NAAKSIKYAYAzaYANNApUUYANNAqYANNApVAYANNApYAYANNAjITH DIGIT EIGHTtFIVEuOURtN",
   "INEtONEtSEVENuIXtTHREEuWOtZEROiPUNCTUATION KUNDDALIYAiSIGN AL-LAKUNAoNUSVARAYAnCANDRABINDUnVIS",
   "ARGAYAiVOWEL SIGN AELA-PILLAtDIGA AEDA-PILLAyGAETTA-PILLAzbYANUKITTAyIS-PILLAyKOMBUVAyPAA-PILL",
   "AtGAETTA-PILLAvYANUKITTAtKETTI AEDA-PILLAzaIS-PILLAzaPAA-PILLAuOMBU DEKAyVAzb HAA AELA-PILLAzg",
   "DIGA AELA-PILLAzgGAYANUKITTAcX PETALLED BLACK AND WHITE FLORETTEfOINTED BLACK STARmPINWHEEL ST",
   "ARmSTAR WITH MIDDLE DOTd-PER-EM SPACEdTEEN POINTED ASTERISKbKATEBOARDcI AND SKI BOOTdERcULLf A",
   "ND CROSSBONESdNKbLANTED EQUAL TO OR GREATER-THANzh WITH DOT INSIDEuLESS-THANze WITH DOT INSIDE",
   "iNORTH ARROW WITH HOOKED HEADzcRIZONTAL TAILdVONIC ASTERISKcEDdEPING ACCOMMODATIONjFACEjSYMBOL",
   "fY FACEdUTH OR SPYcICE OF PIZZAdGHTLY FROWNING FACEjSMILING FACEcOPEeING LARGE ANDoORdT MACHIN",
   "EeHbMALL AIRPLANEhMPERSANDhSTERISKgBLUE DIAMONDgCOLONiMMAkERCIAL ATiNTAINS AS MEMBERpWITH OVER",
   "BARuVERTICAL BAR AT END OF HORIZONTAL STROKEgDOLLAR SIGNgELEMENT OFq WITH OVERBARwVERTICAL BAR",
   " AT END OF HORIZONTAL STROKEhM DASHhQUALS SIGNhXCLAMATION MARKgFULL STOPgGREATER-THAN SIGNgHYP",
   "HEN-MINUSgIDEOGRAPHIC COMMAgLEFT CURLY BRACKETlPARENTHESISlTORTOISE SHELL BRACKETiSS-THAN SIGN",
   "gNUMBER SIGNgORANGE DIAMONDgPERCENT SIGNhLUS SIGNgQUESTION MARKgREVERSE SOLIDUShIGHT CURLY BRA",
   "CKETmPARENTHESISmTORTOISE SHELL BRACKEThOMAN NUMERAL EIGHTvLEVENuFIFTYwVEy HUNDREDvOURuNINEuON",
   "Ex HUNDREDyTHOUSANDuSEVENvIXuTENvHREEvWELVEwOgSEMICOLONgTILDEhWO DOTS OVER ONE DOT PUNCTUATION",
   "gVEE WITH UNDERBARfER THANm OR EQUAL TOdSH PRODUCTcILEeING CAT FACE WITH HEART-SHAPED EYESwOPE",
   "N MOUTHiFACE WITH HALOtEART-SHAPED EYEStORNSsOPEN MOUTHzd AND COLD SWEATziSMILING EYESziTIGHTL",
   "Y-CLOSED EYESsSMILING EYESzf AND HAND COVERING MOUTHzkTHREE HEARTStUNGLASSESsTEARdRKING FACEcO",
   "KING SYMBOLbNAILdKEcEEZING FACEcOW CAPPED MOUNTAINeBOARDEReFLAKEeMANh WITHOUT SNOWbOcCCER BALL",
   "dKScFT HYPHENfICE CREAMfSHELL FLOPPY DISKeBALLeWARE-FUNCTION SYMBOLcGDIAN COMBINING CURVE ABOV",
   "EyBELOWsDOT ABOVEwBELOWsHOOK ABOVExBELOWsLONG HOOK BELOWsRESH BELOWsSTROKE BELOWsTWO DOTS ABOV",
   "EzcBELOWiINDEPENDENT SHINiLETTER ALEPHqYINpBETHpFETHpGIMELpHErTHpKAPHpLAMEDHqESHpMEMpNUNpPEpRE",
   "SH-AYINpSADHErMEKHqHINpTAWpWAWpYODHpZAYINiNUMBER ONEs HUNDREDpTENqWENTYiPUNCTUATION CIRCLE WIT",
   "H DOTuHALF CIRCLE WITH DOTuTWO CIRCLES WITH DOTSyVERTICAL BARSzm WITH DOTScHcLID QUILT SQUARE ",
   "ORNAMENTzc IN BLACK SQUAREfUSh WITH OVERBARcM SIGNcON WITH RIGHTWARDS ARROW ABOVEcRA SOMPENG D",
   "IGIT EIGHTtFIVEuOURtNINEtONEtSEVENuIXtTHREEuWOtZEROnLETTER AHuBAHuCAHuDAHuEEHvHuGAHuHAHuIHuJAH",
   "uKAHuLAHuMAEwHuNAHvGAHvYAHuOHuPAHuRAHuSAHuTAHuUHuVAHuYAHcScUND RECORDING COPYRIGHTdTH EAST ARR",
   "OWq AND SOUTH WEST ARROWrCROSSING NORTH EAST ARROWrTO CORNERrWITH HOOKlBLACK ARROWlDOUBLE ARRO",
   "WlPOINTING BUDuLEAFuVINE LEAFlSANS-SERIF ARROWlTRIANGLE-HEADED ARROWzh TO BARlWHITE ARROWgWEST",
   " ARROWq AND NORTH WEST ARROWrWITH HOOKlBLACK ARROWlDOUBLE ARROWlPOINTING BUDuLEAFuVINE LEAFlSA",
   "NS-SERIF ARROWlTRIANGLE-HEADED ARROWzh TO BARlWHITE ARROWcYOMBO CLUSTER-INITIAL LETTER LAzgRAz",
   "gSAzhHAiFINAL CONSONANT SIGN -AzeBzeDzeGzeKzeLzeMzeNzfGzeRzeSzfHiGEMINATION MARKiHEAD MARK WIT",
   "H MOON AND SUNzk AND FLAMEzpTRIPLE FLAMEiLETTER -ApApBAqHApCAqHApDAqDArHAqHAqZApGAqHApHApJAqHA",
   "pKAqHAqSSApLApMApNAqGAqNAqYApPAqHApRApSAqHAqSApTAqHAqSArHAqTArHApVApYApZAqHAiMARK DOUBLE SHADn",
   "PLUTAnSHADnTSHEGiSIGN ANUSVARAnJIHVAMULIYAnUPADHMANIYAnVISARGAjUBJOINERiTERMINAL MARK-1w2iVOWE",
   "L LENGTH MARKoSIGN AIuUtEtItOuEtUuEtVOCALIC LzcRbPcAdCEdGHETTIdRKLEhSgING HEARTcEAK-NO-EVIL MO",
   "NKEYfERh WITH CANCELLATION STROKEnONE SOUND WAVEnTHREE SOUND WAVESfING HEAD IN SILHOUETTEdECH ",
   "BALLOONeDBOATdSMILO SIGNcHERICAL ANGLEp OPENING LEFTyUPcIDERg WEBdRAL CALENDAR PADhNOTE PADhSH",
   "ELLcLASHING SWEAT SYMBOLcONGEdOL OF THREADeNdRTS MEDALdUTING WHALEbQUARE A OVER MiARUiMiNPEAiP",
   "AATOiRUHUAiUhBAARERUjRiEETAiIRUiORUTOiQiUSSYERUhC OVER KGiALjPiCiDiMj CUBEDkSQUAREDiOjRPORATIO",
   "NiUPhDAjASUiBiESIiJiLiMj CUBEDkSQUAREDiORUhEEKAAiRA NAME HEISEIqMEIZIqREIWAqSYOUWAqTAISYOUjGiS",
   "UKUUDOiVhFMiOOTjUR CORNERShGALjNMAjRONiBiHZiIGAjNIIjRUDAAiPAiURAMUnTONiYhHAjITUiEKUTAARUjRUTUi",
   "GiIRAGANA HOKAiONjONkRUiPjAiUARADDOjIITOjRANiZhIMAGE OFp OR EQUAL TOtNOT EQUAL TOiNjINGUjTIiUh",
   "K OHMiAjIRIjRATTOkORIIiBiCALiEESUiGiHZiIROlGURAMUlMEETORUlWATTOiKiLiMj CAPITALlUBEDkSQUAREDiOO",
   "POjRUNAiPAiTiUROONEkUZEIROiViWiYURIIhLEFT OPEN BOX OPERATORiMiNiOGjZENGEiXhM CUBEDjOHMkVER Sp ",
   "SQUAREDjSQUAREDiAjHHAjIKUROkRUjNSYONjRUKUiBj SMALLiEETORUjGAlTONiGiHZiIKURONjLjRIlBAARUiLiMj C",
   "UBEDkSQUAREDiOLiPAiSiU AkFkGkLkMkSkVkWiVj MEGAiWj MEGAhNAjNOiFiMiOTTOiSiViWhONSUiOMUiRIGINAL O",
   "Fs OR EQUAL TOwNOT EQUAL TOiVhPAj AMPSjASENTOkTUiCiEEZIjNIHIkSUjSOiFiHiIASUTORUjKOkURUiMiOINTO",
   "jNDOjSITION INDICATORiPMiRiSiViWhRADk OVER Sr SQUAREDiEMUjNTOGENiIGHT OPEN BOX OPERATORjRAjTTO",
   "RUiOOTiUPIIjUBURUhSAIKURUjNTIIMUiENTIlOiIRINGUiRiVhTARGETiHZiONhUONhV OVER MhWATTOiBiITH BOTTO",
   "M HALF BLACKmCONTOURED OUTLINEmDIAGONAL CROSSHATCH FILLmHORIZONTAL FILLmLEFT HALF BLACKnOWER L",
   "EFT DIAGONAL HALF BLACKsRIGHT DIAGONAL HALF BLACKmORTHOGONAL CROSSHATCH FILLmRIGHT HALF BLACKm",
   "TOP HALF BLACKmUPPER LEFT DIAGONAL HALF BLACKxTO LOWER RIGHT FILLsRIGHT DIAGONAL HALF BLACKyTO",
   " LOWER LEFT FILLmVERTICAL FILLhYAADOkRUiUANgD ASTERISKiCJK UNIFIED IDEOGRAPH-4E00zi9zh2Dzh8Czh",
   "A4zf518Dzg21Dzh4Dzh72zg3CCzhF3zg408zh39zg5B6zg8F0zg91Azh29zgB57zgDE6zgF8Czf624Bzh53zh95zg307zh",
   "55zg599zhB0zg620zg708zi9zgE80zgF14zf7121zg51Fzh33zg981zgA7AzgD42zf89E3zgCA9zgD70zf904Azg14DjLj",
   "OOLiDOT OPERATORiEIGHT KiFALLING DIAGONAL SLASHjIVE POINT ONEjOUR DOT PUNCTUATIONnKjREEiHCjDRj",
   "I-RESjViIDiKATAKANA DErKOKOrSAjEYiLATIN CAPITAL LETTER AzeBzeCzeDzeEzeFzeGzeHzeIzeJzeKzeLzeMze",
   "NzeOzePzeQzeRzeSzeTzeUzeVzeWzeXzeYzeZoSMALL LETTER DjOGICAL ANDqORkSSLESSiMINUSjViNEWjGiOKjNE ",
   "HUNDRED TWENTY PiPLUSjPViRISING DIAGONAL SLASHiSALTIREjDjECOND SCREENkVEN POINT ONEjHVjIXTY Pj",
   "MALL CIRCLEjOSjQUAREjSiTHREE DjIMESjWENTY-TWO POINT TWOkO KiUHDjP WITH EXCLAMATION MARKiVODjSi",
   "WCeT BLACK RIGHTWARDS ARROWdIDbS2c3cAbTcADIUMdFF OF AESCULAPIUSjHERMESdMPED ENVELOPEdNDING PER",
   "SONdR AND CRESCENTfEQUALSfOF DAVIDgPERATORfWITH LEFT HALF BLACKkRIGHT HALF BLACKeT OF GUARDED ",
   "AREAjHEADINGjPROTECTED AREAjSELECTED AREAkTRINGjTEXTdTIONeUE OF LIBERTYcEAM LOCOMOTIVEfING BOW",
   "LdNOGRAPHIC FULL STOPdTHOSCOPEcICK FIGUREm LEANING LEFTvRIGHTnWITH ARMS RAISEDsDRESScOCK CHART",
   "dPWATCHcRAIGHT RULERiNESSeWBERRYdESS OUTLINED WHITE STARdICTLY EQUIVALENT TOeNG TERMINATORcScU",
   "DIO MICROPHONEdFFED FLATBREADdPAcXbUBdSCRIPT EIGHTlQUALS SIGNkFIVElOURkLEFT PARENTHESISkMINUSk",
   "NINEkONEkPLUS SIGNkRIGHT PARENTHESISkSEVENlIXkTHREElWOkZEROeET ABOVE RIGHTWARDS ARROWnSUBSETpP",
   "ERSEThOFj ABOVE ALMOST EQUAL TOqEQUALS SIGNqNOT EQUAL TOqTILDE OPERATORkOR EQUAL TOv WITH DOT ",
   "ABOVEkWITH NOT EQUAL TOhWITH DOTmMULTIPLICATION SIGN BELOWmPLUS SIGN BELOWeTITUTEcCCEEDSi ABOV",
   "E ALMOST EQUAL TOpEQUALS SIGNpNOT ALMOST EQUAL TOtEQUAL TOpSINGLE-LINE EQUALS SIGNzcNOT EQUAL ",
   "TOjBUT NOT EQUIVALENT TOjOR EQUAL TOpIVALENT TOjUNDER RELATIONcMMATION BOTTOMkTOPkWITH INTEGRA",
   "LcNd BEHIND CLOUDeWITH FACEdDANESE AVAGRAHAkCONSONANT SIGN PAMINGKALzcNYAKRAzeIKUzcSANGAN MAzj",
   "WAkDIGIT EIGHTqFIVErOURqNINEqONEqSEVENrIXqTHREErWOqZEROkLETTER AsErBAsHArCArDArEsUrFAsINAL KxM",
   "rGArHArIrJArKAsHArLAsEUrMArNAsGAsYArOrPArQArRAsEUrSAsYArTArUrVArWArXArYArZAkPUNCTUATION BINDU ",
   "BA SATANGAzdCAKRAzdDA SATANGAzdKA SATANGAzdLEU SATANGAzdPANGLONGzeURNAMAzdSURYAkSIGN PAMAAEHrN",
   "GLAYARtWISADsYECEKpVIRAMAkVOWEL SIGN PAMEPETxNAELAENGyEULEUNGyGHULUyOLONGyYUKUdFLOWERdRISEh OV",
   "ER MOUNTAINSdSET OVER BUILDINGScPERHEROfSCRIPT EIGHTnQUALS SIGNmFIVEnOURmLATIN SMALL LETTER Iz",
   "gNnEFT PARENTHESISmMINUSmNINEmONEmPLUS SIGNmRIGHT PARENTHESISmSEVENnIXmTHREEnWOmZEROgET ABOVE ",
   "LEFTWARDS ARROWpSUBSETrPERSETjBESIDE AND JOINED BY DASH WITH SUBSETqSUBSETjOFl ABOVE ALMOST EQ",
   "UAL TOsEQUALS SIGNsNOT EQUAL TOsTILDE OPERATORmOR EQUAL TOx WITH DOT ABOVEmWITH NOT EQUAL TOjP",
   "RECEDING SOLIDUSjWITH DOToMULTIPLICATION SIGN BELOWoPLUS SIGN BELOWfVILLAINcRFACE INTEGRALeERc",
   "SHIdPENSION RAILWAYbWANdSH AMPERSAND ORNAMENTcIMMERcUNG DASHbYLOTI NAGRI LETTER AuBHOvOuCHOvOu",
   "DDHOwOvHOvOuEuGHOvOuHOuIuJHOvOuKHOvOuLOuMOuNOuOuPHOvOuROvROuSOuTHOvOvTHOwOuUnPOETRY MARK-1za2z",
   "a3za4nSIGN ALTERNATE HASANTAtNUSVARAsDVISVARAsHASANTAnVOWEL SIGN AyEyIyOOyUcMBOL FOR ACKNOWLED",
   "GElBACKSPACEmELLlCANCELnRRIAGE RETURNlDATA LINK ESCAPEmELETEr FORM TWOnVICE CONTROL FOURzbONEz",
   "bTHREEzcWOlEND OF MEDIUMsTEXTtRANSMISSIONzf BLOCKnQUIRYmSCAPElFILE SEPARATORmORM FEEDlGROUP SE",
   "PARATORlHORIZONTAL TABULATIONlLINE FEEDlMARKS CHAPTERlNEGATIVE ACKNOWLEDGEnWLINEmULLlRECORD SE",
   "PARATORlSAMARITAN SOURCEmHIFT INrOUTmPACEmTART OF HEADINGuTEXTmUBSTITUTEv FORM TWOmYNCHRONOUS ",
   "IDLElTYPE A ELECTRONICSlUNIT SEPARATORlVERTICAL TABULATIONdMETRYcNdAGOGUEdCHRONOUS IDLEcRIAC A",
   "BBREVIATION MARKhBARREKHhCOLON SKEWED LEFTuRIGHTjNTRACTIONhDOTTED ZLAMA ANGULARuHORIZONTALhEND",
   " OF PARAGRAPHiSASA ABOVEnBELOWhFEMININE DOThHARKLEAN ASTERISCUSqMETOBELUSqOBELUSiBASA ABOVEnBE",
   "LOWm-ESASA DOTTEDiORIZONTAL COLONhLETTER ALAPHoBETHoDALATHpOTLESS DALATH RISHoEoFINAL SEMKATHo",
   "GAMALt GARSHUNIoHEqTHoKAPHoLAMADHoMALAYALAM BHAyJAyLLAzbLAyNGAzaNAzbNAzaYAyRAySSAyTTApIMoNUNoP",
   "EqRSIAN BHETHwDHALATHwGHAMALoQAPHoREVERSED PEpISHoSADHEpEMKATHpHINpOGDIAN FEwKHAPHwZHAINpUPERS",
   "CRIPT ALAPHoTAWpETHs GARSHUNIoWAWoYUDHs HEoZAINhMUSIChOBLIQUE LINE ABOVEuBELOWhPTHAHA ABOVEoBE",
   "LOWoDOTTEDhQUSHSHAYAhRBASA ABOVEnBELOWiUKKAKHAiWAHAhSUBLINEAR COLONw SKEWED LEFTzfRIGHTrFULL S",
   "TOPjPRALINEAR COLONy SKEWED LEFTtFULL STOPhTHREE DOTS ABOVEsBELOWiWO VERTICAL DOTS ABOVEzaBELO",
   "WhZQAPHA ABOVEoBELOWoDOTTEDeNGEaT-REXcSHIRTbABdLE TENNIS PADDLE AND BALLcCOcG AMPERSANDfPOSTRO",
   "PHEfSTERISKeCIRCUMFLEX ACCENTfOLONgMMAiERCIAL ATeDIGIT EIGHTkFIVElOURkNINEkONEkSEVENlIXkTHREEl",
   "WOkZEROfOLLAR SIGNeEQUALS SIGNfXCLAMATION MARKeFULL STOPeGRAVE ACCENTgEATER-THAN SIGNeHYPHEN-M",
   "INUSeLATIN CAPITAL LETTER AzaBzaCzaDzaEzaFzaGzaHzaIzaJzaKzaLzaMzaNzaOzaPzaQzaRzaSzaTzaUzaVzaWz",
   "aXzaYzaZkSMALL LETTER AxBxCxDxExFxGxHxIxJxKxLxMxNxOxPxQxRxSxTxUxVxWxXxYxZfEFT CURLY BRACKETjPA",
   "RENTHESISjSQUARE BRACKETgSS-THAN SIGNfOW LINEeNUMBER SIGNePERCENT SIGNfLUS SIGNeQUESTION MARKg",
   "OTATION MARKeREVERSE SOLIDUSfIGHT CURLY BRACKETkPARENTHESISkSQUARE BRACKETeSEMICOLONfOLIDUSfPA",
   "CEeTILDEeVERTICAL LINEdALOG LETTER AqRCHAIC RApBApDApGApHApIpKApLApMApNAqGApPApRApSApTApUpWApY",
   "AiSIGN PAMUDPODnVIRAMAiVOWEL SIGN ItUdBANWA LETTER AqBAqDAqGAqIqKAqLAqMAqNArGAqPAqSAqTAqUqWAqY",
   "AjVOWEL SIGN IuUcI LE LETTER ApIpUEoEpEpHoFAoHAoIoKApHAoLAoMAoNApGAoOpOoPApHAoQAoSAoTApHApONE-",
   "2t3t4t5t6pSAqHAoUpEoVAoXAoYAeTHAM COMBINING CRYPTOGRAMMIC DOTlNSONANT SIGN BAyFINAL NGAyHIGH R",
   "ATHA OR LOW PAyLA TANG LAIzaOW PAyMAzaEDIAL LAzgRAySAjHORA DIGIT EIGHTuFIVEvOURuNINEuONEuSEVEN",
   "vIXuTHREEvWOuZEROjLETTER AqBAqDAqEEqGREAT SAqHIGH CAwHAvFAvHAvKAwHAwXAvPAwHAvRATHAvSAwHAwSAvTA",
   "wHAvYAqIrIqLAsErLArOW CAvHAuFAuHAuKAvHAvXAuPAvHAuRATHAuSAuTAvHAuYArUEqMAqNArGArYAqOOqRAsNAsTAr",
   "UEqUrUqWAjSIGN CAANGoDOKMAIoHANGpOYoKAANsKUUpEOWpHUEN TONE-3za4za5t-LUE KARANoMAI KANGw LAIsSA",
   "MsYAMOKoRA HAAMpEVERSED ROTATED RANAoSAKOTqTKAANvKUUqWANoTONE-1t2oWIANGtWAAKjTHAM DIGIT EIGHTu",
   "FIVEvOURuNINEuONEuSEVENvIXuTHREEvWOuZEROjVOWEL SIGN AvAvEvIuEuIvIuMAI SATuOvA ABOVExBELOWvOvYu",
   "TALL AAvHAM AIuUvEvUwEeVIET LETTER HIGH BOvCHOwOvDOvFOvGOvHOvKHHOxOwOvLOvMOvNGOwOwYOvOvPHOwOvR",
   "OvSOvTHOwOvVOvYOqLOW BOuCHOvOuDOuFOuGOuHOuKHHOwOvOuLOuMOuNGOvOvYOuOuPHOvOuROuSOuTHOvOuVOuYOjMA",
   "I KANGoHITjSYMBOL HO HOIqKOI KOIsNqNUENGqSAMjTONE MAI EKsNUENGsSONGsTHOjVOWEL AAqMqNqUEqYpEpIq",
   "ApOpUqAqErAcKEOUT BOXdRI ABBREVIATION SIGNgDIGIT EIGHTmFIVEnOURmNINEmONEmSEVENnIXmTHREEnWOmZER",
   "OgLETTER AoAoIoRCHAIC KHAoUnBAoHAnCAoHAnDAoDApHAoHAnEnGAoHAnHAnIoInJAoHAnKAoHAnLAnMAnNAoGAoNAo",
   "YAnOnPAoHAnRAoRAnSAoHAnTAoHAoTApHAnUoUnVAnYAgSIGN ANUSVARAlNUKTAlVIRAMAnSARGAgVOWEL SIGN AAsIs",
   "UrErIsIrOrUsUcLLY MARK FIVElONEcMALEdIL AND ODD SIGNhS ABOVE SIGNhU LENGTH MARKgCREDIT SIGNhUR",
   "RENT SIGNgDAY SIGNhEBIT SIGNhIGIT EIGHTmFIVEnOURmNINEmONEmSEVENnIXmTHREEnWOmZEROhRY CULTIVATIO",
   "N SIGNgFRACTION DOWNSCALING FACTOR KIIZHpONE EIGHTHyIETHtFIFTHuORTIETHtHALF-1y2tONE-HUNDRED-AN",
   "D-SIXTIETHtQUARTERtSIXTEENTH-1ze2xY-FOURTHtTENTHuHIRTY-SECONDvREE-HUNDRED-AND-TWENTIETHuWENTIE",
   "THpTHREE EIGHTIETHSvQUARTERSvSIXTEENTHSzaY-FOURTHSvTWENTIETHSgIN POSSESSION SIGNgLAND SIGNhETT",
   "ER AoAoIoUnCAnEoEnHAnIoInJAnKAnLAoLApLAnMAnNAoGAoNApNAoYAnOoOnPAnRAoRAnSAoHAoSAnTAoTAnUoUnVAnY",
   "AgMONTH SIGNgNUMBER ONE HUNDREDrTHOUSANDnSIGNnTENgOMgPUNCTUATION END OF TEXTgRUPEE SIGNgSALT P",
   "AN SIGNhIGN AAZHAAKKUmNUSVARAlCEVITUlKAACUmURUNInZHIlMUKKURUNInTHALIYAnUVUZHAKKUlNELlPAARAMnNA",
   "MnTHAKKUmONlUZHAKKUlVAKAIYARAAnRAAKANmELImIRAMAnSARGAhPENT SIGNhTARTING FROM SIGNgTOTAL SIGNhR",
   "ADITIONAL CREDIT SIGNsNUMBER SIGNgVOWEL SIGN AAsIsUrEsErIsIrOsOrUsUgWET CULTIVATION SIGNgYEAR ",
   "SIGNcNABATA TREEdGERINEeSA DIGIT EIGHTnFIVEoOURnNINEnONEnSEVENoIXnTHREEoWOnZEROhLETTER ACpQpWC",
   "qQqXqZpXpZoBAoCApHAoDApHAoECpQpXpZoFApINAL NGoGApHAoHApTAqTAoICpQpXpZoKApHAoLApONG UEXoMApCpQp",
   "XpZoNApGApHApYAoOCpQpXpZoPApHAoRAoSApHAqORT AWXuUEZoTApHApSAoUCpECqQqXqZpICqQqUCrQrXrZqXqZpQpX",
   "pZoVCpQpXpZoWAoXAoYAoZAeUT COMPONENT-001t2t3t4t5t6t7t8t9s10t1t2t3t4t5t6t7t8t9s20t1t2t3t4t5t6t7",
   "t8t9s30t1t2t3t4t5t6t7t8t9s40t1t2t3t4t5t6t7t8t9s50t1t2t3t4t5t6t7t8t9s60t1t2t3t4t5t6t7t8t9s70t1t",
   "2t3t4t5t6t7t8t9s80t1t2t3t4t5t6t7t8t9s90t1t2t3t4t5t6t7t8t9r100t1t2t3t4t5t6t7t8t9s10t1t2t3t4t5t6",
   "t7t8t9s20t1t2t3t4t5t6t7t8t9s30t1t2t3t4t5t6t7t8t9s40t1t2t3t4t5t6t7t8t9s50t1t2t3t4t5t6t7t8t9s60t",
   "1t2t3t4t5t6t7t8t9s70t1t2t3t4t5t6t7t8t9s80t1t2t3t4t5t6t7t8t9s90t1t2t3t4t5t6t7t8t9r200t1t2t3t4t5",
   "t6t7t8t9s10t1t2t3t4t5t6t7t8t9s20t1t2t3t4t5t6t7t8t9s30t1t2t3t4t5t6t7t8t9s40t1t2t3t4t5t6t7t8t9s5",
   "0t1t2t3t4t5t6t7t8t9s60t1t2t3t4t5t6t7t8t9s70t1t2t3t4t5t6t7t8t9s80t1t2t3t4t5t6t7t8t9s90t1t2t3t4t",
   "5t6t7t8t9r300t1t2t3t4t5t6t7t8t9s10t1t2t3t4t5t6t7t8t9s20t1t2t3t4t5t6t7t8t9s30t1t2t3t4t5t6t7t8t9",
   "s40t1t2t3t4t5t6t7t8t9s50t1t2t3t4t5t6t7t8t9s60t1t2t3t4t5t6t7t8t9s70t1t2t3t4t5t6t7t8t9s80t1t2t3t",
   "4t5t6t7t8t9s90t1t2t3t4t5t6t7t8t9r400t1t2t3t4t5t6t7t8t9s10t1t2t3t4t5t6t7t8t9s20t1t2t3t4t5t6t7t8",
   "t9s30t1t2t3t4t5t6t7t8t9s40t1t2t3t4t5t6t7t8t9s50t1t2t3t4t5t6t7t8t9s60t1t2t3t4t5t6t7t8t9s70t1t2t",
   "3t4t5t6t7t8t9s80t1t2t3t4t5t6t7t8t9s90t1t2t3t4t5t6t7t8t9r500t1t2t3t4t5t6t7t8t9s10t1t2t3t4t5t6t7",
   "t8t9s20t1t2t3t4t5t6t7t8t9s30t1t2t3t4t5t6t7t8t9s40t1t2t3t4t5t6t7t8t9s50t1t2t3t4t5t6t7t8t9s60t1t",
   "2t3t4t5t6t7t8t9s70t1t2t3t4t5t6t7t8t9s80t1t2t3t4t5t6t7t8t9s90t1t2t3t4t5t6t7t8t9r600t1t2t3t4t5t6",
   "t7t8t9s10t1t2t3t4t5t6t7t8t9s20t1t2t3t4t5t6t7t8t9s30t1t2t3t4t5t6t7t8t9s40t1t2t3t4t5t6t7t8t9s50t",
   "1t2t3t4t5t6t7t8t9s60t1t2t3t4t5t6t7t8t9s70t1t2t3t4t5t6t7t8t9s80t1t2t3t4t5t6t7t8t9s90t1t2t3t4t5t",
   "6t7t8t9r700t1t2t3t4t5t6t7t8t9s10t1t2t3t4t5t6t7t8t9s20t1t2t3t4t5t6t7t8t9s30t1t2t3t4t5t6t7t8t9s4",
   "0t1t2t3t4t5t6t7t8t9s50t1t2t3t4t5t6t7t8t9s60t1t2t3t4t5t6t7t8hITERATION MARKcPE CARTRIDGEfDRIVEc",
   "URUScXIbEACUP WITHOUT HANDLEdPOTdR-OFF CALENDAReDROP-BARBED RIGHTWARDS ARROWjSPOKED ASTERISKcD",
   "DY BEARcLEPHONE LOCATION SIGNkON TOP OF MODEMkRECEIVERs WITH PAGEnORDERkSIGNeSCOPEeVISIONdUGU ",
   "AI LENGTH MARKhDIGIT EIGHTnFIVEoOURnNINEnONEnSEVENoIXnTHREEoWOnZEROhFRACTION DIGIT ONE FOR EVE",
   "N POWERS OF FOURzfODD POWERS OF FOURwTHREE FOR EVEN POWERS OF FOURzhODD POWERS OF FOURxWO FOR ",
   "EVEN POWERS OF FOURzfODD POWERS OF FOURwZERO FOR ODD POWERS OF FOURhLENGTH MARKjTTER ApApIpUoB",
   "ApHAoCApHAoDApDAqHApHApZAoEpEoGApHAoHAoIpIoJApHAoKApHAoLApLAqLAoMAoNAqKAARA POLLUpGApNApYAoOpO",
   "oPApHAoRApRAqRAoSApHApSAoTApHApSApTAqHAoUpUoVApOCALIC LxLwRxRoYAhSIGN ANUSVARAnVAGRAHAmCANDRAB",
   "INDUnOMBINING ANUSVARA ABOVEwCANDRABINDU ABOVEmNUKTAmSIDDHAMmTUUMUmVIRAMAoSARGAhVOWEL SIGN AAt",
   "ItUsEtEsItIsOtOsUtUsVOCALIC LzcLzbRzcRcNGE SIGNdNIS RACQUET AND BALLdTcST TUBEcTRAGRAM FOR ACC",
   "UMULATIONpDVANCEpGGRAVATIONpSCENToBARRIERpOLD RESOLUTIONpRANCHING OUToCENTREpHANGEpLOSED MOUTH",
   "tNESSsUREpOMPLETIONtIANCEqNSTANCYrTACTsENTIONsRARIETYoDARKENINGpECISIVENESSqFECTIVENESS OR DIS",
   "TORTIONqPARTUREpIFFICULTIESqMINISHMENTrMINGqVERGENCEpOUBTpUTIESoEASEpMBELLISHMENTpNCOUNTERSqDE",
   "AVOURqLARGEMENTpTERNITYpXHAUSTIONoFAILUREpLIGHTpOLLOWINGqSTERINGpULL CIRCLEsNESSoGATHERINGx IN",
   "pOING TO MEETpREATNESSpUARDEDNESSoHARDNESSpOLDING BACKoINCREASEqNERoJOYoKEEPING SMALLpINSHIPoL",
   "ABOURINGqW OR MODELpEGIONoMASSINGpEASUREpIREDoON THE VERGEpPPOSITIONoPACKINGqTTERNpENETRATIONp",
   "URITYoREACHqLEASEqSIDENCEsSTANCErPONSEpITUALoSEVERANCEpINKINGpTOPPAGErVEqRENGTHoUNITYoVASTNESS",
   " OR WASTINGoWAITINGqTCHoYOUTHFULNESSbHAANA AABAAFILIiBAFILIhEBEFILIiEBEEFILIiYBEYFILIhIBIFILIh",
   "LETTER AINUpLIFUoBAAoCHAVIYANIoDAADHUqVIYANIpHAALUoFAAFUoGAAFUpHAINUpNAVIYANIoHAApHAAoJAVIYANI",
   "oKAAFUpHAAoLAAMUpHAVIYANIoMEEMUoNAApOONUoPAVIYANIoQAAFUoRAAoSAADHUpEENUpHAVIYANIqEENUoTAVIYANI",
   "pHAAsLUpOpTAAoVAAVUoWAAVUoYAAoZAAqVIYANIpOhOABOAFILIiBOFILIiOBOOFILIhSUKUNhUBUFILIdI CHARACTER",
   " ANGKHANKHUpBO BAIMAIpCHO CHANxGvINGvOEpDO CHADAsDEKpFO FAuNrNGMANpHO HIPsNOKHUKpKHO KHAIvONvU",
   "ATvWAItRAKHANGsMUTqO KAIpLAKKHANGYAOqO CHULAsLINGqUpMAI CHATTAWAtEKtHAN-AKATtTHOuRIsTAIKHUsYAM",
   "OKqO MApNGO NGUqIKHAHITqO NENtUpO ANGpPAIYANNOIqHINTHUrO PHANvUNGtSAMPHAOqO PLApRO RUAqUpSARA ",
   "AvAvEvI MAIMALAIzcUANvMuEuIvIuOuUvEwEvUqO RUSIsSALAtOtUApTHANTHAKHATrO NANGMONTHOtPHUTHAOtTHAH",
   "ANwNvONGvUNGqO PATAKsTAOpWO WAENpYAMAKKANqO YAKtINGgURRENCY SYMBOL BAHTfDIGIT EIGHTlFIVEmOURlN",
   "INElONElSEVENmIXlTHREEmWOlZEROcERE DOES NOT EXISTgEXISTSfFOREeMODYNAMICgMETERcIN GREEK CROSSfS",
   "ALTIREgPACEeKING FACEdRD PLACE MEDALcONG SANDALdUGHT BALLOONcREE BUTTON MOUSEgCONSECUTIVE EQUA",
   "LS SIGNSgDIMENSIONAL ANGLEhOT PUNCTUATIONgLEFTWARDS ARROWShINES CONVERGING LEFTxRIGHTgNETWORKE",
   "D COMPUTERSgPOINTED BLACK STARgRAYS ABOVElBELOWlLEFTlRIGHThIGHTWARDS ARROWSgSPEECH BUBBLESf-D ",
   "BOTTOM-LIGHTED RIGHTWARDS ARROWHEADiLEFT-LIGHTED DOWNWARDS EQUILATERAL ARROWHEADiRIGHT-LIGHTED",
   " UPWARDS EQUILATERAL ARROWHEADiTOP-LIGHTED LEFTWARDS EQUILATERAL ARROWHEADuRIGHTWARDS ARROWHEA",
   "DzgEQUILATERAL ARROWHEADgEM DASHgPER-EM SPACEcUMBS DOWN SIGNhUP SIGNdNDER CLOUD AND RAINhSTORM",
   "bIBETAN ASTROLOGICAL SIGN -KHYUD PAzbSDONG TSHUGSzcGRA GCAN -CHAR RTAGSiCANTILLATION SIGN CANG",
   " TE-UzbHEAVY BEATzbLIGHT BEATzbSBUB -CHALiDIGIT EIGHToFIVEpOURoHALF EIGHTtFIVEuOURtNINEtONEtSE",
   "VENuIXtTHREEuWOtZEROoNINEoONEoSEVENpIXoTHREEpWOoZEROiKU RU KHAr BZHI MIG CANiLETTER -ApApBAqHA",
   "pCAqHApDAqDArHAqHAqZArHApFIXED-FORM RApGAqHApHApJApKAqHAqKAqSSApLApMApNAqGAqNAqYApPAqHApRAqRAp",
   "SAqHAqSApTAqHAqSArHAqTArHApWApYApZAqHAjOGOTYPE SIGN CHAD RTAGSwLHAG RTAGSiMARK ANG KHANG GYASz",
   "aONnBKA- SHOG GI MGO RGYANxYIG MGOoSDUS RTAGSpKA- SHOG GI MGO RGYANqUR YIG MGOnCARET -DZUD RTA",
   "GS BZHI MIG CANzgME LONG CANtYIG MGO PHUR SHAD MAoHE MGOoLOSING BRDA RNYING YIG MGO SGAB MAvYI",
   "G MGO SGAB MAnDELIMITER TSHEG BSTARnGTER TSHEGsYIG MGO -UM GTER TSHEG MAzfRNAM BCAD MAzbTRUNCA",
   "TED AoUG RTAGS GYASzaONnHALANTAnINITIAL BRDA RNYING YIG MGO MDUN MAvYIG MGO MDUN MApTERSYLLABI",
   "C TSHEGnLEADING MCHAN RTAGSnMNYAM YIG GI MGO RGYANnNGAS BZUNG NYI ZLAySGOR RTAGSoYIS SHADsTSHE",
   "Gx SHADnPALUTAnRGYA GRAM SHADoIN CHEN SPUNGS SHADnSBRUL SHADoHADnTRAILING MCHAN RTAGSoSA -PHRU",
   "pHEG SHADnYIG MGO TSHEG SHAD MAiSIGN GRU CAN RGYINGSrMED RGYINGSnINVERTED MCHU CANnLCE TSA CAN",
   "pI RTAGSnMAR TSHESoCHU CANnNYI ZLA NAA DAnRDEL DKAR GCIGyNYISySUMxRDEL NAGsNAG GCIGxNYISxSUMwR",
   "DEL DKARoJES SU NGA ROoNAM BCADnSNA LDANnYANG RTAGSpR TSHESjUBJOINED LETTER -AzaAzaBAzbHAzaCAz",
   "bHAzaDAzbDAzcHAzbHAzbZAzcHAzaFIXED-FORM RAzlWAzlYAzaGAzbHAzaHAzaJAzaKAzbHAzbSSAzaLAzaMAzaNAzbG",
   "AzbNAzbYAzaPAzbHAzaRAzaSAzbHAzbSAzaTAzbHAzbSAzcHAzbTAzcHAzaWAzaYAzaZAzbHAsSIGN INVERTED MCHU C",
   "ANxLCE TSA CANxMCHU CANjYLLABLE OMkMBOL DRIL BUpNOR BUv BZHI -KHYILwGSUM -KHYILwNYIS -KHYILpPA",
   "DMA GDANqHUR PApRDO RJEw RGYA GRAMiVOWEL SIGN AAtEuEtIuItOuOtREVERSED IzeItUuUtVOCALIC LzdLzcR",
   "zdRcCKETcE OVER INFINITYcFINAGH CONSONANT JOINERjLETTER AHAGGAR YAZHrYER YAGHqBERBER ACADEMY Y",
   "AHziJqTAWELLEMET YAZrUAREG YAGHzbNzaHzaKzbHzaNGzaQzaZHqYAsAsBtHsCHsDtDuHtHsFsGtHuHsHtHsJsKtHuH",
   "sLsMsNsPsQsRtRsStHtSsTtHtTsVsWsYsZtHtZrEsYrIrOrUjMODIFIER LETTER LABIALIZATION MARKjSEPARATOR ",
   "MARKcGERf FACEdHT TRIFOLIATE SNOWFLAKEcLDEf OPERATORo ABOVE LEFTWARDS ARROWvRIGHTWARDS ARROWpW",
   "ITH DOT ABOVEuRISING DOTSgWITH DOT ABOVEpBELOWlRING ABOVEcMER CLOCKeS WITH LEFT HALF BLACKlRIG",
   "HT HALF BLACKcNYe TWO DOTS OVER ONE DOT PUNCTUATIONcRED FACEdHUTA ABBREVIATION SIGNjNJIiDIGIT ",
   "EIGHToFIVEpOURoNINEoONEoSEVENpIXoTHREEpWOoZEROiGVANGiLETTER AqAqIqUpBAqHApCAqHApDAqDArHAqHApEp",
   "GAqHApHApIqIpJAqHApKAqHApLApMApNAqGAqNAqYApOpPAqHApRApSAqHAqSApTAqHAqTArHApUqUpVAqOCALIC LyLxR",
   "yRpYAiOMiSIGN ANUSVARAoVAGRAHAnCANDRABINDUnNUKTAnVIRAMApSARGAiVOWEL SIGN AAuIuUtEtIuItOtSHORT ",
   "EzaOtUuUtVOCALIC LzdLzcRzdRdONIAN SIGN CAPITAL EToETbOILETcKYO TOWERcMATOcNGUEcOLBOXdTHfBRUSHc",
   "P ARC ANTICLOCKWISE ARROWzc WITH PLUSiCLOCKWISE ARROW WITH MINUSeCURLY BRACKETeHALF BLACK CIRC",
   "LEjINTEGRALjLEFT PARENTHESISjRIGHT PARENTHESISjSECTION SIGNgTeLEFT CORNERkROPjHALF BRACKETePAR",
   "ENTHESISeRIGHT CORNERlROPkHALF BRACKETeSQUARE BRACKETeTORTOISE SHELL BRACKETeWITH UPWARDS ARRO",
   "W ABOVEcRTOISE SHELL BRACKETED CJK UNIFIED IDEOGRAPH-4E09zy8Czw52DDzxB89zw6253zx557zx72Czw70B9",
   "zx6D7zaLATIN CAPITAL LETTER ScTAL RUNOUTdO LETTER AnEmBAnREATHY AEuEvOuIvUmCHAmDAmEnOmGAmHAmIn",
   "UmJAmKAmLAmMAmNAnGAmOmPAmRAmSAmTAmUmWAmYAfSIGN RISING TONEbRACKBALLeTORdDE MARK SIGNdINdMe CAR",
   "dNSPLUTOfVERSAL INTERSECTIONcIANGLE WITH DOT ABOVEoROUNDED CORNERSoSERIFS AT BOTTOMoUNDERBARi-",
   "HEADED RIGHTWARDS ARROWgULAR BULLETlFLAG ON POSTlRULERdCOLONdDENT EMBLEMdGRAM FOR EARTHmFIREmH",
   "EAVENmLAKEmMOUNTAINmTHUNDERmWATERnINDdPLE COLON OPERATORhDAGGERhHORIZONTAL BAR WITH DOUBLE VER",
   "TICAL STROKEzcTRIPLE VERTICAL STROKEhINTEGRALhNESTED GREATER-THANoLESS-THANhPLUSiRIMEhSOLIDUS ",
   "BINARY RELATIONhTILDEhVERTICAL BAR BINARY RELATIONuDELIMITERuRIGHT TURNSTILEuWITH HORIZONTAL S",
   "TROKEcOLLfEYBUSdPHYeICAL DRINKjFISHcUEe LIGHT MOON ARTAdMPETbUGRIK SIGNcLIPcMBLER GLASScRKEYeI",
   "SH LIRA SIGNdNED AMPERSANDiNGLEhBLACK PENTAGONnSHOGI PIECEhCAPITAL FiOMMAhDAGGERiIGIT THREEoWO",
   "hGREEK SMALL LETTER IOTAhNORTH EAST POINTING LEAFnWEST POINTING LEAFjT SIGNhOK HAND SIGNhSANS-",
   "SERIF CAPITAL GzbLzbYiEMICOLONiMALL FiOUTH EAST POINTING LEAFnWEST POINTING LEAFhWHITE SHOGI P",
   "IECEdTLEbWELVE POINTED BLACK STARcISTED RIGHTWARDS ARROWScO ASTERISKS ALIGNED VERTICALLYeBUTTO",
   "N MOUSEeCONSECUTIVE EQUALS SIGNSeDOT LEADERiPUNCTUATIONhS OVER ONE DOT PUNCTUATIONeHEARTSeINTE",
   "RSECTING LOGICAL ANDzaOReJOINED SQUARESeLOGICAL AND OPERATORmOR OPERATOReMEN HOLDING HANDSeSPE",
   "ECH BUBBLESeWOMEN HOLDING HANDSd-EM DASHaUGARITIC LETTER AINrLPAqBETAqDELTArHALqGAMLArHAINqHOs",
   "TAqIqKAFrHAqLAMDAqMEMqNUNqPUqQOPAqRASHAqSADEsMKArHINrSUqTETrHANNArOqUqWOqYODqZETArUjWORD DIVID",
   "ERbMBRELLAi ON GROUNDjWITH RAIN DROPSbNAMUSED FACEcCERTAINTY SIGNcDERTIEdO SYMBOLcICORN FACEdO",
   "Nf ABOVE BAR ABOVE INTERSECTIONmINTERSECTIONgBESIDE AND JOINED WITH UNIONgWITH LOGICAL ORlMINU",
   "S SIGNlOVERBARdT SEPARATOReED SYMBOLdVERSAL RECYCLING SYMBOLcMARRIED PARTNERSHIP SYMBOLbP ARRO",
   "W THROUGH CIRCLEiHEADm BETWEEN TWO HORIZONTAL BARSnIN A RECTANGLE BOXdBARB LEFT DOWN BARB LEFT",
   " HARPOONxRIGHT HARPOONiRIGHT DOWN BARB LEFT HARPOONyRIGHT HARPOONdDOWN ARROWn WITH BASEiBLACK ",
   "ARROWiDOUBLE ARROWiSANS-SERIF ARROWiTRIANGLE-HEADED ARROWiWHITE ARROWdFISH TAILdRIGHT DIAGONAL",
   " ELLIPSISdTACKh WITH CIRCLE ABOVEc-POINTING AIRPLANEmMILITARY AIRPLANEmRED TRIANGLEmSMALL AIRP",
   "LANEsRED TRIANGLEmTRIANGLE WITH LEFT HALF BLACKzbRIGHT HALF BLACKcPER AND LEFT AND LOWER TRIAN",
   "GULAR THREE QUARTERS BLOCKlOWER ONE EIGHTH BLOCKqTRIANGULAR HALF BLOCKkRIGHT AND LOWER TRIANGU",
   "LAR THREE QUARTERS BLOCKgBLADE SCISSORSgFIVE EIGHTHS BLOCKgHALF BLOCKq AND LOWER HALF INVERSE ",
   "MEDIUM SHADElCIRCLElINVERSE MEDIUM SHADE AND LOWER HALF BLOCKtWHITE CIRCLElMEDIUM SHADEgLEFT B",
   "LOCK DIAGONAL LOWER CENTRE TO LOWER MIDDLE RIGHTzrUPPER MIDDLE RIGHTzxRIGHTzhLEFT TO LOWER MID",
   "DLE RIGHTzpUPPER CENTREzvMIDDLE RIGHTzhMIDDLE LEFT TO UPPER CENTREzzdMIDDLE RIGHTzzdRIGHTzbUPP",
   "ER MIDDLE LEFT TO UPPER CENTREzzdRIGHTlCORNER WITH DOTlOR LOWER RIGHT CURLY BRACKET SECTIONlQU",
   "ADRANT CIRCULAR ARClTO LOWER RIGHT FILLmRIANGLErULAR MEDIUM SHADEgONE EIGHTH BLOCKkQUARTER BLO",
   "CKgRIGHT BLOCK DIAGONAL LOWER MIDDLE LEFT TO LOWER CENTREzzeRIGHTzcUPPER CENTRE TO LOWER MIDDL",
   "E RIGHTzyRIGHTzsUPPER MIDDLE RIGHTziLEFT TO LOWER CENTREzwMIDDLE RIGHTzqUPPER MIDDLE RIGHTziMI",
   "DDLE LEFT TO LOWER CENTREzzeMIDDLE RIGHTzzeRIGHTmDROP-SHADOWED WHITE SQUAREmOR LOWER LEFT CURL",
   "Y BRACKET SECTIONmPENCILmQUADRANT CIRCULAR ARCmSHADOWED WHITE CIRCLEzcSQUAREmTO LOWER LEFT FIL",
   "LnRIANGLEsULAR MEDIUM SHADEgSEVEN EIGHTHS BLOCKgTHREE EIGHTHS BLOCKmQUARTERS BLOCKhRIANGULAR O",
   "NE QUARTER BLOCKcSIDE-DOWN FACEcWARDS ANCORAjRROWn AND RIGHT ONE EIGHTH BLOCKoFROM BARoLEFTWAR",
   "DS OF DOWNWARDS ARROWoTO BARoWITH DOUBLE STROKEtEQUILATERAL ARROWHEADtHORIZONTAL STROKEtLARGE ",
   "TRIANGLE ARROWHEADtMEDIUM TRIANGLE ARROWHEADtNOTCHED TAILtSMALL EQUILATERAL ARROWHEADzaTRIANGL",
   "E ARROWHEADtTIP LEFTWARDSxRIGHTWARDSiBLACK ARROWoCIRCLED WHITE ARROWiCOMPRESSED ARROWiDASHED A",
   "RROWjOUBLE ARROWiFINGER-POST ARROWiHARPOON WITH BARB LEFT BESIDE DOWNWARDS HARPOON WITH BARB R",
   "IGHTznUPWARDS HARPOON WITH BARB RIGHTzgFROM BARzgTO BARzfWARDSzbRIGHT FROM BARzhTO BARzgWARDSj",
   "EAVY ARROWoCOMPRESSED ARROWiPAIRED ARROWSiQUADRUPLE ARROWiROCKETiSANS-SERIF ARROWjQUARED ARROW",
   "iTRIANGLE ARROWHEADq-HEADED ARROWze LEFTWARDS OF DOWNWARDS TRIANGLE-HEADED ARROWzfTO BARzfWITH",
   " BOLD SHAFTzkDOUBLE HORIZONTAL STROKEzkHEAVY SHAFTzkLONG TIP LEFTWARDSztRIGHTWARDSzkMEDIUM SHA",
   "FTzkNARROW SHAFTzkVERY HEAVY SHAFTyDASHED ARROWyPAIRED ARROWSlPLE ARROWjWO HEADED ARROWl-HEADE",
   "D ARROW FROM SMALL CIRCLEzaWITH TRIANGLE ARROWHEADSiWHITE ARROWt FROM BARzd WITH HORIZONTAL BA",
   "RuON PEDESTALzg WITH HORIZONTAL BARzmVERTICAL BARuWITHIN TRIANGLE ARROWHEADoDOUBLE ARROWzb ON ",
   "PEDESTALbRANUSbSaVAI COMMAeDIGIT EIGHTkFIVElOURkNINEkONEkSEVENlIXkTHREElWOkZEROeFULL STOPeQUES",
   "TION MARKeSYLLABLE AoNnBAoEpEoHApEqEpIpOqOpUoIoOpOoUnCAoEpEoIoOpOoUnDAoEpEoHApEqEpHAqErEqIqOrO",
   "qUpIpOqOpUoIoOpOoUnEoEpNoNnFAoEpEoIoOpOoUnGAoBApEqEqNpIpOqNqOpUoEpEpNoIoOpOoUnHApNoEpEpNoIpNoO",
   "pNpOoUpNnIoNnJAoEpEoIoOpOoUnKApNoEpEoIoOpOoPAqNpEqEqNpIpOqOpUoUnLAoEpEpNGTHENERoIoOpOoUnMAoBAp",
   "EqEpIpOqOpUoEpEoGBAqErEqIqOrOqUoIoOpOoUnNAoDApEqEpIpOqLE DOtFAtKAtMAtSOOqOpUoEpEoGpANpENpGAqEr",
   "ErNqIqOrOqUpONoIoJApEqEpIpOqOpUoOpOoUoYApEqEpIpOqOpUnOoNoOpNnPAoEpEoIoOpOoUnRAoEpEoIoOpOoUnSAo",
   "EpEoHApEqEpIpOqOpUoIoOpOoUnTAoEpEoHApEqEpIpOqOpUoIoOpOoUnUoNnVAoEpEoIoOpOoUnWApNoEpEqNpNoIpNoO",
   "pNpOqNoUpNnYAoEpEoIoOpOoUnZAoEpEoHApEqEpIpOqOpUoIoOpOoUgMBOL BANGlDANGmO-OnONGlFAAmEENGlJONGlK",
   "EENGmUNGlNIIlTAAmINGmONGcMPIREcRIATION SELECTOR-1u0v0v1v2v3v4v5v6v7v8v9u1v0v1v2v3v4v5v6v7v8v9u",
   "2v0v1v2v3v4v5v6v7v8v9u3v0v1v2v3v4v5v6v7v8v9u4v0v1v2v3v4v5v6v7v8v9u5v0v1v2v3v4v5v6v7v8v9u6v0v1v",
   "2v3v4v5v6v7v8v9u7v0v1v2v3v4v5v6v7v8v9u8v0v1v2v3v4v5v6v7v8v9u9v0v1v2v3v4v5v6v7v8v9t2u0v0v1v2v3v",
   "4v5v6v7v8v9u1v0v1v2v3v4v5v6v7v8v9u2v0v1v2v3v4v5v6v7v8v9u3v0v1v2v3v4v5v6v7v8v9u4v0v1v2v3v4v5v6v",
   "7v8v9u5v0v1v2v3v4v5v6u6u7u8u9t3u0u1u2u3u4u5u6u7u8u9t4u0u1u2u3u4u5u6u7u8u9t5u0u1u2u3u4u5u6u7u8u",
   "9t6u0u1u2u3u4u5u6u7u8u9t7u0u1u2u3u4u5u6u7u8u9t8u0u1u2u3u4u5u6u7u8u9t9u0u1u2u3u4u5u6u7u8u9bECTO",
   "R OR CROSS PRODUCTcDIC SIGN ANUSVARA ANTARGOMUKHAuBAHIRGOMUKHAuUBHAYATO MUKHAuVAMAGOMUKHAzg WI",
   "TH TAILmRDHAVISARGAmTIKRAMAlDOUBLE ANUSVARA ANTARGOMUKHAlHEXIFORM LONG ANUSVARAlJIHVAMULIYAlLO",
   "NG ANUSVARAlNIHSHVASAlREVERSED VISARGA ANUDATTAzdUDATTAmOTATED ARDHAVISARGAmTHANG LONG ANUSVAR",
   "AlTIRYAKlUPADHMANIYAlVISARGA ANUDATTAzc WITH TAILtSVARITAtUDATTAza WITH TAILlYAJURVEDIC MIDLIN",
   "E SVARITAgTONE ATHARVAVEDIC INDEPENDENT SVARITAlCANDRA ABOVEsBELOWlDOT BELOWnUBLE RING ABOVEsS",
   "VARITAlKARSHANAnTHAKA ANUDATTAlPRENKHAlRIGVEDIC KASHMIRI INDEPENDENT SVARITAnNG ABOVElSHARAlTH",
   "REE DOTS BELOWmRIPLE SVARITAmWO DOTS BELOWlYAJURVEDIC AGGRAVATED INDEPENDENT SVARITAwINDEPENDE",
   "NT SVARITAwKATHAKA INDEPENDENT SVARITAzy SCHROEDERcRSICLEdTICAL BAR BESIDE RIGHT TRIANGLEnDOUB",
   "LE LEFT TURNSTILEnTRIPLE RIGHT TURNSTILEnWITH HORIZONTAL STROKEjELLIPSISjFOUR DOTSjIDEOGRAPHIC",
   " ITERATION MARKjKANA REPEAT MARKza LOWER HALFzbUPPER HALFvWITH VOICED SOUND MARKzs UPPER HALFj",
   "LINEn EXTENSIONoWITH CIRCLE ABOVEzbBELOWtMIDDLE DOTjMALE WITH STROKE SIGNjONE EIGHTH BLOCK-2zb",
   "3zb4zb5zb6zb7jSIX DOTSjTAB KEYmULATIONt SETkILDEkRAFFIC LIGHTjZIGZAG LINEdY BOLD GREEK CROSSfH",
   "EAVY EIGHT POINTED BLACK STARrSPOKED ASTERISKlFIVE SPOKED ASTERISKlGREEK CROSSlREVERSE SOLIDUS",
   "lSALTIREmIX SPOKED ASTERISKmOLIDUSlWHITE CIRCLErSQUAREfMUCH GREATER-THANkLESS-THANcSTAbIBRATIO",
   "N MODEcCTORY HANDcDEO CAMERAgGAMEfCASSETTEcETNAMESE ALTERNATE READING MARK CAzjNHAYdWDATA SQUA",
   "REcOLINcRGOcTHKUQI CAPITAL LETTER AyBBEzaEyCEzaHEyDEzaHEyEzaIyFEyGAyHAzaHAyIzaJEyJEyKAyLAzaLAy",
   "MEyNEzaJEyOyPEyQAyREySEzaHEyTEzaHEyUyVEyXEyYyZEjSMALL LETTER AwBBExEwCExHEwDExHEwExIwFEwGAwHAx",
   "HAwIxJEwJEwKAwLAxLAwMEwNExJEwOwPEwQAwREwSExHEwTExHEwUwVEwXEwYwZEbOIDED GREEK CROSScLCANOdLEYBA",
   "LLdUME INTEGRALbS1d0e0e1e2e3e4e5e6e7e8e9d1e0e1e2e3e4e5e6e7e8e9d2e0e1e2e3e4e5e6e7e8e9d3e0e1e2e3",
   "e4e5e6e7e8e9d4e0e1e2e3e4e5e6e7e8e9d5e0e1e2e3e4e5e6e7e8e9d6e0e1e2e3e4e5e6e7e8e9d7e0e1e2e3e4e5e6",
   "e7e8e9d8e0e1e2e3e4e5e6e7e8e9d9e0e1e2e3e4e5e6e7e8e9c2d0e0e1e2e3e4e5e6e7e8e9d1e0e1e2e3e4e5e6e7e8",
   "e9d2e0e1e2e3e4e5e6e7e8e9d3e0e1e2e3e4e5e6e7e8e9d4e0e1e2e3e4e5e6e7e8e9d5e0e1e2e3e4e5e6d6d7d8d9c3",
   "d0d1d2d3d4d5d6d7d8d9c4d0d1d2d3d4d5d6d7d8d9c5d0d1d2d3d4d5d6d7d8d9c6d0d1d2d3d4d5d6d7d8d9c7d0d1d2",
   "d3d4d5d6d7d8d9c8d0d1d2d3d4d5d6d7d8d9c9d0d1d2d3d4d5d6d7d8d9bTcSbULCANUSdGAR FRACTION FIVE EIGHT",
   "HSvSIXTHSrOUR FIFTHSqONE EIGHTHuFIFTHuHALFuNINTHuQUARTERuSEVENTHvIXTHuTENTHvHIRDqSEVEN EIGHTHS",
   "qTHREE EIGHTHSwFIFTHSwQUARTERSrWO FIFTHSuTHIRDSqZERO THIRDSaWAFFLEcNCHO DIGIT EIGHTnFIVEoOURnN",
   "INEnONEnSEVENoIXnTHREEoWOnZEROhLETTER ApAqNrGpNGpUoBAoCAoDAoEpNoFAoGAoHAoIpNGoJAoKApHAoLApLHAo",
   "MAoNApGApYAoOpNqGoPApHAoRAoSApHAoTApHApRApSAoUpENoVAoWAoYApIHoZAhNGUN SIGNhTONE KOIpNImTUPpNId",
   "ING CRESCENT MOON SYMBOLhGIBBOUS MOON SYMBOLcRANG CITI CAPITAL LETTER AzdMzdNGzdTzcBUzcDAzcEzd",
   "NNzeYzcGAzcHARzdIYOzdOLOzeRRzcIIzcKOzcNGAAzdUNGzcOzdDDzcPUzcSIIzdSUUzcTTEzcUCzdUzcVIYOzcWIzcYA",
   "zdOzdUzeJmDIGIT EIGHTsFIVEtOURsNINEsONEsSEVENtIXsTHREEtWOsZEROmNUMBER EIGHTYtFIFTYuORTYtNINETY",
   "tSEVENTYuIXTYtTENuHIRTYuWENTYmOMmSMALL LETTER AzbMzbNGzbTzaBUzaDAzaEzbNNzcYzaGAzaHARzbIYOzbOLO",
   "zcRRzaIIzaKOzaNGAAzbUNGzaOzbDDzaPUzaSIIzbSUUzaTTEzaUCzbUzaVIYOzaWIzaYAzbOzbUzcJdNING SIGNcSTEB",
   "ASKETcTCHdER BUFFALOgCLOSETgPOLOgWAVEfMELONcVE ARROW POINTING DIRECTLY LEFTzeRIGHTfDASHdING BL",
   "ACK FLAGhHAND SIGNhWHITE FLAGdY DASHfLINEgOW LINEfOVERLINEcXING CRESCENT MOON SYMBOLhGIBBOUS M",
   "OON SYMBOLbEARY CAT FACEgFACEcDDINGdGE-TAILED RIGHTWARDS ARROWcIERSTRASS ELLIPTIC FUNCTIONdGHT",
   " LIFTERcST SYRIAC CROSSbHALEcEELf OF DHARMAfCHAIR SYMBOLcITE ARROW SHAFT WIDTH ONEyTWO THIRDSg",
   "BULLETgCHESS BISHOPs ROTATED NINETY DEGREESzcTWO HUNDRED SEVENTY DEGREESmEQUIHOPPERw ROTATED N",
   "INETY DEGREESmKINGq ROTATED NINETY DEGREESzaTWO HUNDRED SEVENTY DEGREESnNIGHTs ROTATED FORTY-F",
   "IVE DEGREESzcNINETY DEGREESzcONE HUNDRED THIRTY-FIVE DEGREESzcTHREE HUNDRED FIFTEEN DEGREESzdW",
   "O HUNDRED SEVENTY DEGREESzoTWENTY-FIVE DEGREESs-BISHOPtQUEENtROOKmPAWNq ROTATED NINETY DEGREES",
   "zaTWO HUNDRED SEVENTY DEGREESmQUEENr ROTATED NINETY DEGREESzbTWO HUNDRED SEVENTY DEGREESmROOKq",
   " ROTATED NINETY DEGREESzaTWO HUNDRED SEVENTY DEGREESmTURNED BISHOPtKINGuNIGHTtPAWNtQUEENtROOKh",
   "IRCLEm CONTAINING BLACK SMALL CIRCLEnWITH DOT RIGHTuWN ARROWsLOWER LEFT QUADRANTyRIGHT QUADRAN",
   "TsTWO DOTSsUPPER LEFT QUADRANTyRIGHT QUADRANThLUB SUIThONCAVE-SIDED DIAMONDzc WITH LEFTWARDS T",
   "ICKziRIGHTWARDS TICKgDIAMONDn CONTAINING BLACK MEDIUM DIAMONDzgSMALL DIAMONDzgVERY SMALL DIAMO",
   "NDoIN SQUAREoSUIToWITH CENTRED DOThOWN POINTING BACKHAND INDEXuINDEXuLEFT HAND INDEXk-POINTING",
   " SMALL TRIANGLEuTRIANGLEhRAUGHTS KINGpMANgEXCLAMATION MARK ORNAMENTgFLAGk WITH HORIZONTAL MIDD",
   "LE BLACK STRIPEiORETTEjWERhOUR POINTED CUSPtSTARhROWNING FACEgHARD SHELL FLOPPY DISKhEARTl SUI",
   "TjVY CHECK MARKmSALTIRE WITH ROUNDED CORNERSiXAGONhORIZONTAL ELLIPSEiURGLASSgLARGE SQUAREiTIN ",
   "CROSShEFT LANE MERGElPOINTING BACKHAND INDEXuINDEXk-POINTING POINTERuSMALL TRIANGLEuTRIANGLEhO",
   "ZENGE CONTAINING BLACK SMALL LOZENGEgMEDIUM DIAMONDnLOZENGEnSMALL SQUAREoQUAREoTARhOON SELENAg",
   "NIBgPARALLELOGRAMhENNANTjTAGONgQUESTION MARK ORNAMENTgRECTANGLEhIGHT POINTING BACKHAND INDEXvI",
   "NDEXl-POINTING PENTAGONwOINTERvSMALL TRIANGLEvTRIANGLEgSCISSORShESAME DOThHOGI PIECEhMALL LOZE",
   "NGEmSQUAREnTARiILING FACEhPADE SUIThQUAREm BUTTONnCONTAINING BLACK MEDIUM SQUAREzfSMALL SQUARE",
   "zfVERY SMALL SQUAREnWITH CENTRE VERTICAL LINEsLEFTWARDS TICKtOWER LEFT QUADRANTyRIGHT QUADRANT",
   "sRIGHTWARDS TICKtOUNDED CORNERSsUPPER LEFT QUADRANTyRIGHT QUADRANTsVERTICAL BISECTING LINEhTAR",
   "hUNj BEHIND CLOUDw WITH RAINkWITH RAYSpSMALL CLOUDgTELEPHONEhOUCHTONE TELEPHONEhRAPEZIUMiIANGL",
   "E CONTAINING SMALL WHITE TRIANGLEhWO-WAY LEFT WAY TRAFFICgUP POINTING BACKHAND INDEXsINDEXi-PO",
   "INTING CHEVRONsSMALL TRIANGLEsTRIANGLEzb WITH DOTgVERTICAL BARpELLIPSEpRECTANGLEjY SMALL SQUAR",
   "Ef-FEATHERED RIGHTWARDS ARROWbIDE-HEADED DOWNWARDS BARB ARROWwHEAVY BARB ARROWwLIGHT BARB ARRO",
   "WwMEDIUM BARB ARROWwVERY HEAVY BARB ARROWmLEFTWARDS BARB ARROWwHEAVY BARB ARROWwLIGHT BARB ARR",
   "OWwMEDIUM BARB ARROWwVERY HEAVY BARB ARROWmNORTH EAST BARB ARROWxHEAVY BARB ARROWxLIGHT BARB A",
   "RROWxMEDIUM BARB ARROWxVERY HEAVY BARB ARROWsWEST BARB ARROWxHEAVY BARB ARROWxLIGHT BARB ARROW",
   "xMEDIUM BARB ARROWxVERY HEAVY BARB ARROWmRIGHTWARDS BARB ARROWxHEAVY BARB ARROWxLIGHT BARB ARR",
   "OWxMEDIUM BARB ARROWxVERY HEAVY BARB ARROWmSOUTH EAST BARB ARROWxHEAVY BARB ARROWxLIGHT BARB A",
   "RROWxMEDIUM BARB ARROWxVERY HEAVY BARB ARROWsWEST BARB ARROWxHEAVY BARB ARROWxLIGHT BARB ARROW",
   "xMEDIUM BARB ARROWxVERY HEAVY BARB ARROWmUPWARDS BARB ARROWuHEAVY BARB ARROWuLIGHT BARB ARROWu",
   "MEDIUM BARB ARROWuVERY HEAVY BARB ARROWcGGLY VERTICAL LINEcLTED FLOWERcND BLOWING FACEfCHIMEeO",
   "WdE GLASSdKING FACEcRED KEYBOARDbJbOLF FACEcMANf WITH BUNNY EARSfS BOOTShCLOTHEShHAThSANDALdEN",
   "S SYMBOLcN SIGNcODcRD JOINERfSEPARATOR MIDDLE DOTdLD MAPdMdRIED FACEbRAPPED PRESENTcEATH PRODU",
   "CTdNCHdSTLERScITING HANDaX IN A RECTANGLE BOXb-RAYbIANGQI BLACK CANNONpHARIOToELEPHANToGENERAL",
   "oHORSEoMANDARINoSOLDIERiRED CANNONnHARIOTmELEPHANTmGENERALmHORSEmMANDARINmSOLDIERbORaYAWNING F",
   "ACEbELLOW HEARTcN SIGNcZIDI COMBINING HAMZA MARKrMADDA MARKhHYPHENATION MARKhLETTER BEoCHHIMqI",
   "MpIMoDADqLoELIFpTpWpYNoFAoGAFoHAYpHAoJAoKAFpHAFoLAMr WITH DOT ABOVEoMIMoNUNoOWoPEpHEoQAFoRApHA",
   "oSADpEpHINpINoTApHEoUMoVAq ALTERNATE FORMoWAWoXApHEYNoYOTr WITH CIRCUMFLEX ABOVEoZAqLpEbI RADI",
   "CAL BBUTmURlCHEmIPmUOPmYnPnTlDDURmUlGAmEPmGOPnUOmOTlHMOmXITnOPnUOlJJIEnUTnYmOlKEmITlLInEmYRlMI",
   "mOPlNBIEmYIPnOPmZUPlOPlPUTmYTlQOTlSHATnOPnURnYmSIlTATmUlVEPmURlWOlYITmOlZAmOTmUPnRmZIETdSYLLAB",
   "LE AnPnTnXmBAoPoToXnBApPpTpXoEpPpXoIpEqPqTqXpPpTpXoOpPpTpXoUpOqPqXpPpRqXpTpXoYpPpTpXnEoPoXnIoE",
   "pPpTpXoPoToXnOoPoToXnUoOpPpXoPoRpXoToXnYoPoRpXoToXmCAoPoToXnEoPoXnHApPpTpXoEpPpTpXoOpPpTpXoUpO",
   "qPqTqXpPpRqXpXoYpPpRqXpTpXnIoEpPpTpXoPoToXnOoPoToXnUoOpPpXoPoRpXoToXnYoPoRpXoToXmDAoPoToXnDApP",
   "pTpXoEpPpXoIpEqPqXpPpTpXoOpPpTpXoUpOqPqXpPpRqXpTpXnEoPoXnIoEpPpXoPoToXnOoPoToXnUoOpXoPoRpXoToX",
   "mEnXmFAoPoToXnIoPoToXnOoPoXnUoPoRpXoToXnYoPoToXmGAoPoToXnEoPoToXnGApPpTpXoEpPpTpXoIpEqPqXpTpXo",
   "OpPpTpXoUpOqPqTqXpPpRqXpTpXnIoEpPpTpXoPoToXnOoPoToXnUoOpPpTpXoPoRpXoToXmHAoPoToXnEoPoXnIEpXoTn",
   "LApPpTpXoEpPpXoIpEqPqXpPpTpXoOpPpXoUpOqPqXpPpRqXpTpXoYpPpRqXpTpXnMApPpTpXoIpEqPqXpPpTpXoOpPpTp",
   "XoUpOqPqXpPpRqXpTpXoYpPpRqXpXnNApPpTpXoEpPpXoIpEqPqTqXpPpTpXoOPpTpXoUOqXpTnOoPoToXnUOpPpTpXnXA",
   "pPpTpXoEpPpXoIpEqPqTqXpPpTpXoOpPpTpXoUOqPqTqXmInEoPoToXnPnToERATION MARKnXmJIoEpPpTpXoPoToXnJI",
   "pEqPqTqXpPpTpXoOpPpTpXoUpOqPqXpPpRqXpTpXoYpPpTpXnOoPoToXnUoOpPpTpXoPoRpXoToXnYoPoRpXoToXmKAoPo",
   "ToXnEoPoToXnIoEpPpXoPoToXnOoPoToXnUoOpPpXoPoRpXoToXmLAoPoToXnEoPoXnIoEpPpTpXoPoToXnOoPoToXnUoO",
   "pPpTpXoPoRpXoToXnYoPoRpXoToXmMAoPoToXnEoXnGApPpTpXoEpPpXoIEqXoOpPpTpXoUpOqPqXpPpRqXpTpXnIoEpPp",
   "XoPoToXnOoPoToXnUoOpPpTpXoPoRpXoToXnYoPoToXmNAoPoXnBApPpTpXoIpEqPqXpPpTpXoOpPpTpXoUpPpRqXpTpXo",
   "YpPpRqXpTpXnDApPpTpXoEpPpXoIpEqXpPpTpXoOpPpTpXoUpPpRqXpTpXnEoPoXnGApPpTpXoEpPpXoIEqPqXoOpPpTpX",
   "oUOqTqXnIoEpPpXoPoToXnJIpEqPqTqXpPpTpXoOpPpTpXoUpOqXpPpRqXpXoYpPpRqXpTpXnOoPoToXnRApPpTpXoEpPp",
   "TpXoOpPpXoUpPpRqXpTpXoYpPpRqXpTpXnUoOpPpXoPoRpXoToXnYIpEqPqTqXpPpTpXoOpPpTpXoUpOqPqXpPpTpXnZAp",
   "PpTpXoEpXoIpEqPqXpPpTpXoOPpXoUpOqXpPpRqXpXoYpPpRqXpTpXmOnPnTnXmPAoPoToXnIoEpPpXoPoToXnOoPoToXn",
   "UoOpPpXoPoRpXoToXnYoPoRpXoToXmQIoEpPpTpXoPoToXnOoPoToXnUoOpPpTpXoPoRpXoToXnYoPoRpXoToXmRAoPoTo",
   "XnEoPoXnOoPoToXnRApXoEpPpTpXoOpPpTpXoUpOqXpPpRqXpTpXoYpPpRqXpTpXnUoOpPpXoPoRpXoToXnYoPoRpXoToX",
   "mSAoPoToXnEoPoXnHApPpTpXoEpPpTpXoOpPpTpXoUpOqPqXpPpRqXpTpXoYpPpRqXpTpXnIoEpPpXoPoToXnOoPoToXnS",
   "ApPpTpXoEpPpXoIpEqPqXpPpTpXoOpPpTpXoUpPpTpXoYpPpRqXpTpXnUoOpPpXoPoRpXoToXnYoPoRpXoToXmTAoPoToX",
   "nEoPoXnIoEpPpXoPoToXnOoPoToXnUoOpPpTpXoPoRpXoToXmUOoPoXmVAoPoToXnEPoXnIoEpPpTpXoPoToXnOoPoToXn",
   "UoPoRpXoToXnYoPoRpXoToXmWAoPoToXnEoPoXnOoPoXnUoOpPpXmXIoEpPpTpXoPoToXnOoPoToXnUOpXnYoPoRpXoToX",
   "mYIoEpPpTpXoPoToXnOoPoToXnUoOpPpTpXoPoRpXoToXnYoPoRpXoToXmZAoPoToXnEoPoXnHApPpTpXoEpPpTpXoOpPp",
   "TpXoUpOqPqXpPpRqXpTpXoYpPpRqXpTpXnIoEpPpXoPoToXnOoPoToXnUoOpPpXoPoRpXoToXnYoPoRpXoToXnZApPpTpX",
   "oEpPpXoIpEqPqTqXpPpTpXoOpPpXoUpPpRqXpXoYpPpRqXpTpXcN YANGbO-YOaZ NOTATION BAG MEMBERSHIPlDOMAI",
   "N ANTIRESTRICTIONlLEFT BINDING BRACKETqIMAGE BRACKETlRANGE ANTIRESTRICTIONmELATIONAL COMPOSITI",
   "ONmIGHT BINDING BRACKETrIMAGE BRACKETlSCHEMA COMPOSITIONsPIPINGtROJECTIONmPOTlTYPE COLONbANABA",
   "ZAR SQUARE CLOSING DOUBLE-LINED HEAD MARKzaHEAD MARKtUSTER-FINAL LETTER LAznRAznVAznYAzaINITIA",
   "L LETTER RArFINAL CONSONANT MARKrINITIAL DOUBLE-LINED HEAD MARKzaHEAD MARKrLETTER -AyAyBAzaHAy",
   "CAzaHAyDAzaDAzbHAzaHAzaZAzbHAyGAzaHAyHAyJAyKAzaHAzaSSAyLAyMAyNAzaGAzaNAzaYAyPAzaHAyRAySAzaHAza",
   "SAyTAzaHAzaSAzbHAzaTAzbHAyVAyYAyZAzaHArMARK DOUBLE SHADwLONG TSHEGwSHADwTSHEGrSIGN ANUSVARAwCA",
   "NDRA WITH ORNAMENTzdBINDUzi WITH ORNAMENTwVIRAMAySARGAsUBJOINERrVOWEL LENGTH MARKxSIGN AIzeUzd",
   "EzdIzdOzeEzdREVERSED IzdUzeEbEBRA FACEcRO WIDTH JOINERlNO-BREAK SPACEnN-JOINERlSPACEcUSbIPPER-",
   "MOUTH FACEbNAMENNY COMBINING ATTACHING VERTICAL OMETtLOWER TONAL RANGE INDICATORtMARK BORZAYAy",
   "CHASHKAzg POLNAYAzaURVED OMETyDEMESTVENNY ZADERZHKAzaVOETOCHIEyGORAZDO NIZKO ON LEFTzqRIGHTznS",
   " KRYZHEM ON LEFTzzbRIGHTzhVYSOKOyKACHKAzaRYZHze ON LEFTzaUPNAYAyLOMKAyMALO POVYSHE ON LEFTzpRI",
   "GHTzmS KHOKHLOM ON LEFTzzbRIGHTzpRYZHEMznTRANNOyNIZKO ON LEFTziRIGHTzfS KRYZHEM ON LEFTzsRIGHT",
   "yOBLACHKOzaNzaTSECHKAyPODCHASHIEzj WITH VERTICAL STROKEzcVERTKAzbVYSHE ON LEFTzkRIGHTzhS KHOKH",
   "LOM ON LEFTzvRIGHTzkRYZHEMziTRANNOyRAVNOzbZSEKAySKOBAzaOROCHYA NOZHKAzaREDNE ON LEFTzjRIGHTzaT",
   "RANNO MALO POVYSHEyTIKHAYAzaOCHKAzaSATA ON LEFTziRIGHTzfS KRYZHEMyUDARKAyVYSOKO ON LEFTzjRIGHT",
   "zgS KHOKHLOM ON LEFTzuRIGHTzjRYZHEMyZADERZHKAzaELOzbVOKtTONAL RANGE MARK MRACHNOzlSVETLOzlTRES",
   "VETLOjNEUME CHASHKArELYUSTKApDEMESTVENNY KLYUCHrRBITSAqOUBLE ZAPYATAYAqUDAqVA V CHELNUpFITApGO",
   "LUBCHIK BORZYzaMRACHNYzaSVETLYzaTIKHYzbRESVETLYpKHAMILOqLYUCHqOBYLAqRYUKu TIKHYsZHqUFISMApMECH",
   "IKv KLYUCHENEPOSTOYANNYzePOVODNYzeVOYwPOVODNYpNEMKApOBLAKOqSOKAu KLYUCHEVAYA NEPOSTOYANNAYAziS",
   "VETLAYAwRYUKOVAYA SVETLAYAvSVETLAYAvTRESVETLAYApPALKArRAKLITrUKqEREVODKAy NEPOSTOYANNAYAqODCHA",
   "SHIErLKULIZMYpREVERSED CHELYUSTKAqOGpSKAMEYTSA DVOECHELNAYA KLYUCHEVAYAznNEPOSTOYANNAYAznPROST",
   "AYAznSVETLAYAzaKLYUCHENEPOSTOYANNAYAzhVAYA SVETLAYAzmTIKHAYAzaMRACHNAYAzaSVETLAYAzaTIKHAYAzbRE",
   "SVETLAYAqLOZHITIEy S KRYZHEMzcZAPYATOYzaZAKRYTOEqTATYAv NEPOSTOYANNAYAwS DVUMYA ZAPYATYMIyKRYZ",
   "HEMzg I ZAPYATOYyROGOMyZAPYATOYzh I KRYZHEMzkPODCHASHIEMwZAKRYTAYAzg S ZAPYATOYrOPITSAx S OCHK",
   "OMyWITH SOROCHYA NOZHKArRELA DVOECHELNAYAzj KLYUCHEVAYAzgOKRYZHEVAYAzhPOVODNAYAzq KLYUCHEVAYAw",
   "GROMNAYAzf WITH SINGLE ZAPYATAYAzbOKRYZHEVAYAzm POVODNAYAzcPOVODNAYAzl WITH DOUBLE ZAPYATAYAzr",
   "SINGLE ZAPYATAYAwKLYUCHENEPOSTOYANNAYAzePOVODNAYAxRYUKOVAYAzh GROMNAYAzq WITH SINGLE ZAPYATAYA",
   "zmOKRYZHEVAYAzx POVODNAYAznPOVODNAYAzw WITH DOUBLE ZAPYATAYAzzdSINGLE ZAPYATAYAziPOVODNAYAziTR",
   "YASKAzaZHEVAYAwMRACHNOTIKHAYAwNEPOSTOYANNAYAwPOLUPOVODNAYAyVODNAYAxROSTAYAwTIKHAYA PUTNAYAxRYA",
   "SOGLASNAYAzdPOVODNAYAzdSTRELNAYApVRAKHIYA KLYUCHEVAYA MRACHNAYAzlPROSTAYAzlSVETLAYAzlTRESVETLA",
   "YAyMRACHNAYAyPROSTAYAySVETLAYAyTRESVETLAYApZANOZHEKrPYATAYAqMEYTSAjPRIZNAK MODIFIER DIRECTION ",
   "FLIPzbKRYZHzbLEVEL-2zh3zbROGbOMBIEbWJcNBSPdJcSP"]

end SystemDynamics.Text
