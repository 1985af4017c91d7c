/-!
# Names of characters, L to R

The names of the characters of Unicode 14 and their other names that begin with the letters L to
R, in order. Small letters before a name say how many characters it shares with the name before
it: `a` is none, `b` is one, and a `z` adds 25 to the letter behind it. What follows is the rest of
the name. Names that are written by a rule are left out.
-/

namespace SystemDynamics.Text

/-- The names, a piece a line; names go on from one line to the next. -/
def namesLToR : List String :=
  ["aL B BAR SYMBOLbAB COATdELcCROSSE STICK AND BALLcDDERdY BEETLEcNGUAGE TAGcO CANCELLATION MARKe",
   "DIGIT EIGHTkFIVElOURkNINEkONEkSEVENlIXkTHREElWOkZEROeELLIPSISeHO MOhNOeKO LAeLETTER BOlCOlDOlF",
   "O FAYpONoSUNGoTAMlHO SUNGoTAMlKHMU GOqNYOnO SUNGpTAMmOlLOn LINGpOOTlMOlNGOmOmYOlOlPALI BHAqCHA",
   "qDDAsHArHAqGHAqJHAqLLAqNNArYAqTTAsHAmHO SUNGpTAMmOlROlSANSKRIT SHAvSAmO SUNGoTAMlTHO SUNGpTAMm",
   "OlWOlYOeNIGGAHITAeSEMIVOWEL SIGN LOtNYOfIGN PALI VIRAMAeTONE MAI CATAWAnEKnTHOoIeVOWEL SIGN Aq",
   "AqIqMqYpEqIpIqIpMAI KANuONpOpUqUpYqYcRGE BLUE CIRCLElDIAMONDlSQUAREhROWN CIRCLEmSQUAREgCIRCLEg",
   "DOWN TACKgGREEN CIRCLEmSQUAREgLEFT TRIANGLE OPERATORgONE DOT OVER TWO DOTS PUNCTUATIONkRING OV",
   "ER TWO RINGS PUNCTUATIONhRANGE CIRCLEnDIAMONDnSQUAREgPURPLE CIRCLEnSQUAREgRED CIRCLEkSQUAREgTR",
   "IPLE VERTICAL BAR OPERATORhWO DOTS OVER ONE DOT PUNCTUATIONkRINGS OVER ONE RING PUNCTUATIONgUP",
   " TACKgYELLOW CIRCLEnSQUAREfR THANl OR EQUAL TOdI SIGNcST QUARTER MOONr SYMBOLsWITH FACEcTIN CA",
   "PITAL LETTER Aw WITH ACUTEzdBREVEzi AND ACUTEznDOT BELOWznGRAVEznHOOK ABOVEznTILDEzdCARONzeIRC",
   "UMFLEXzn AND ACUTEzsDOT BELOWzsGRAVEzsHOOK ABOVEzsTILDEzdDIAERESISzm AND MACRONzeOT ABOVEzm AN",
   "D MACRONzhBELOWzfUBLE GRAVEzdGRAVEzdHOOK ABOVEzdINVERTED BREVEzdMACRONzdOGONEKzdRING ABOVEzn A",
   "ND ACUTEziBELOWzdSTROKEzdTILDEwAwEx WITH ACUTEzeMACRONwFRICAN DwLPHAwNGLICANA WwOwUwVx WITH HO",
   "RIZONTAL BARwYvBw WITH DOT ABOVEzhBELOWzdFLOURISHzdHOOKzdLINE BELOWzdSTROKEzdTOPBARwETAwROKEN ",
   "LvCw WITH ACUTEzdBARzdCARONzeEDILLAzk AND ACUTEzeIRCUMFLEXzdDOT ABOVEzdHOOKzdPALATAL HOOKzdSTR",
   "OKEwHIwLOSED INSULAR GwONwUATRILLOzf WITH COMMAvDw WITH CARONzeEDILLAzeIRCUMFLEX BELOWzdDOT AB",
   "OVEzhBELOWzdHOOKzdLINE BELOWzdSHORT STROKE OVERLAYzeMALL LETTER Zzr WITH CARONzeTROKEzdTOPBARw",
   "Zx WITH CARONvEw WITH ACUTEzdBREVEzdCARONzeEDILLAzk AND BREVEzeIRCUMFLEXzn AND ACUTEzsDOT BELO",
   "WzsGRAVEzsHOOK ABOVEzsTILDEzoBELOWzdDIAERESISzeOT ABOVEzhBELOWzfUBLE GRAVEzdGRAVEzdHOOK ABOVEz",
   "dINVERTED BREVEzdMACRONzj AND ACUTEzoGRAVEzdOGONEKzdSTROKEzdTILDEzi BELOWwGYPTOLOGICAL AINzlLE",
   "FwNGwSHwTxHwZHy REVERSEDzaWITH CARONvFw WITH DOT ABOVEzdHOOKzdSTROKEvGw WITH ACUTEzdBREVEzdCAR",
   "ONzeEDILLAzeIRCUMFLEXzdDOT ABOVEzdHOOKzdMACRONzdOBLIQUE STROKEzdSTROKEwAMMAwHAwLOTTAL AzeIzeST",
   "OPzeUvHw WITH BREVE BELOWzdCARONzeEDILLAzeIRCUMFLEXzdDESCENDERzeIAERESISzeOT ABOVEzhBELOWzdHOO",
   "KzdSTROKEwALF HwENGwWAIRvIw WITH ACUTEzdBREVEzdCARONzeIRCUMFLEXzdDIAERESISzm AND ACUTEzeOT ABO",
   "VEzhBELOWzfUBLE GRAVEzdGRAVEzdHOOK ABOVEzdINVERTED BREVEzdMACRONzdOGONEKzdSTROKEzdTILDEzi BELO",
   "WwNSULAR DzeFzeGzeRzeSzeTwOTAwSvJw WITH CIRCUMFLEXzeROSSED-TAILzdSTROKEvKw WITH ACUTEzdCARONze",
   "EDILLAzdDESCENDERzeIAGONAL STROKEzeOT BELOWzdHOOKzdLINE BELOWzdOBLIQUE STROKEzdSTROKEzj AND DI",
   "AGONAL STROKEvLw WITH ACUTEzdBARzeELTzdCARONzeEDILLAzeIRCUMFLEX BELOWzdDOT BELOWzm AND MACRONz",
   "fUBLE BARzdHIGH STROKEzdLINE BELOWzdMIDDLE DOTzkTILDEzdSMALL LETTER JzeTROKEwJvMw WITH ACUTEzd",
   "DOT ABOVEzhBELOWzdHOOKwIDDLE SCOTS Szc-WELSH LLzjVvNw WITH ACUTEzdCARONzeEDILLAzeIRCUMFLEX BEL",
   "OWzdDESCENDERzeOT ABOVEzhBELOWzdGRAVEzdLEFT HOOKzeINE BELOWzeONG RIGHT LEGzdOBLIQUE STROKEzdSM",
   "ALL LETTER JzdTILDEwJvOw WITH ACUTEzdBREVEzdCARONzeIRCUMFLEXzn AND ACUTEzsDOT BELOWzsGRAVEzsHO",
   "OK ABOVEzsTILDEzdDIAERESISzm AND MACRONzeOT ABOVEzm AND MACRONzhBELOWzfUBLE ACUTEzkGRAVEzdGRAV",
   "EzdHOOK ABOVEzfRNzh AND ACUTEzmDOT BELOWzmGRAVEzmHOOK ABOVEzmTILDEzdINVERTED BREVEzdLONG STROK",
   "E OVERLAYzfOPzdMACRONzj AND ACUTEzoGRAVEzeIDDLE TILDEzdOGONEKzj AND MACRONzdSTROKEzj AND ACUTE",
   "zdTILDEzi AND ACUTEznDIAERESISznMACRONwIwLD POLISH OwMEGAwOwPEN EzbOwUvPw WITH ACUTEzdDOT ABOV",
   "EzdFLOURISHzdHOOKzdSQUIRREL TAILzeTROKEzj THROUGH DESCENDERvQw WITH DIAGONAL STROKEzdSTROKE TH",
   "ROUGH DESCENDERvRw ROTUNDAxWITH ACUTEzdCARONzeEDILLAzdDOT ABOVEzhBELOWzm AND MACRONzfUBLE GRAV",
   "EzdINVERTED BREVEzdLINE BELOWzdOBLIQUE STROKEzdSTROKEzdTAILwEVERSED C WITH DOTzfEzfHALF HzfOPE",
   "N EwUM ROTUNDAvSw WITH ACUTEzi AND DOT ABOVEzdCARONzi AND DOT ABOVEzeEDILLAzeIRCUMFLEXzeOMMA B",
   "ELOWzdDOT ABOVEzhBELOWzm AND DOT ABOVEzdHOOKzdOBLIQUE STROKEzdSHORT STROKE OVERLAYzeWASH TAILw",
   "ALTILLOwCHWAxRIPT GwHARP SwIGMOID SwMALL CAPITAL IzcQ WITH HOOK TAILvTw WITH CARONzeEDILLAzeIR",
   "CUMFLEX BELOWzeOMMA BELOWzdDIAGONAL STROKEzeOT ABOVEzhBELOWzdHOOKzdLINE BELOWzdRETROFLEX HOOKz",
   "dSTROKEwHORNzb WITH STROKEzn THROUGH DESCENDERwONE FIVEzbSIXzbTWOwRESILLOwURNED AzeLPHAzdHzdIN",
   "SULAR GzdKzdLzdMzdTzdVwZvUw BARxWITH ACUTEzdBREVEzdCARONzeIRCUMFLEXzn BELOWzdDIAERESISzm AND A",
   "CUTEzrCARONzrGRAVEzrMACRONznBELOWzeOT BELOWzfUBLE ACUTEzkGRAVEzdGRAVEzdHOOK ABOVEzfRNzh AND AC",
   "UTEzmDOT BELOWzmGRAVEzmHOOK ABOVEzmTILDEzdINVERTED BREVEzdMACRONzj AND DIAERESISzdOGONEKzdRING",
   " ABOVEzdSTROKEzdTILDEzi AND ACUTEzjBELOWwPSILONvVw WITH DIAGONAL STROKEzeOT BELOWzdHOOKzdTILDE",
   "wENDwISIGOTHIC ZwOLAPUK AEzeOEzeUEwYvWw WITH ACUTEzdCIRCUMFLEXzdDIAERESISzeOT ABOVEzhBELOWzdGR",
   "AVEzdHOOKwYNNvXw WITH DIAERESISzeOT ABOVEvYw WITH ACUTEzdCIRCUMFLEXzdDIAERESISzeOT ABOVEzhBELO",
   "WzdGRAVEzdHOOKzh ABOVEzdLOOPzdMACRONzdSTROKEzdTILDEwOGHvZw WITH ACUTEzdCARONzeIRCUMFLEXzdDESCE",
   "NDERzeOT ABOVEzhBELOWzdHOOKzdLINE BELOWzdPALATAL HOOKzdSTROKEzeWASH TAILpIGATURE IJxOEhROSSgEP",
   "IGRAPHIC LETTER ARCHAIC MyI LONGAzaNVERTED MyREVERSED FziPySIDEWAYS IgLETTER AINoLVEOLAR CLICK",
   "nBIDENTAL PERCUSSIVEpLABIAL CLICKwPERCUSSIVEnDENTAL CLICKnGLOTTAL STOPza WITH STROKEnINVERTED ",
   "GLOTTAL STOPzj WITH CURLzpSTROKEnLATERAL CLICKnPHARYNGEAL VOICED FRICATIVEnRETROFLEX CLICKzd W",
   "ITH RETROFLEX HOOKpVERSED ESH LOOPwGLOTTAL STOP WITH STROKEnSINOLOGICAL DOToMALL CAPITAL AzdEz",
   "cBzdARRED BzcCzcDzcEzdTHzdZHzcFzcGzd WITH HOOKzcHzcIzdNVERTED RzcJzcKzcLzd WITH BELTzjSTROKEzc",
   "MzcNzcOzdEzdPEN OzdUzcPzcQzcRzd WITH RIGHT LEGzdEVERSED NzlRzdUMzcSzcTzdURNED EzjGzjKzjMzjRzcU",
   "zcVzcWzcYzcZoTRETCHED Cy WITH CURLnTWO WITH STROKEnVOICED LARYNGEAL SPIRANTnWYNNnYRgSMALL CAPI",
   "TAL LETTER I WITH STROKEzcU WITH STROKEmLETTER Au REVERSED-SCHWAvWITH ACUTEzbBREVEzg AND ACUTE",
   "zlDOT BELOWzlGRAVEzlHOOK ABOVEzlTILDEzbCARONzcIRCUMFLEXzl AND ACUTEzqDOT BELOWzqGRAVEzqHOOK AB",
   "OVEzqTILDEzbDIAERESISzk AND MACRONzcOT ABOVEzk AND MACRONzfBELOWzdUBLE GRAVEzbGRAVEzbHOOK ABOV",
   "EzbINVERTED BREVEzbMACRONzbOGONEKzbRETROFLEX HOOKzcIGHT HALF RINGzdNG ABOVEzl AND ACUTEzgBELOW",
   "zbSTROKEzbTILDEuAuEv WITH ACUTEzcMACRONuLPHAy WITH RETROFLEX HOOKuNGLICANA WuOuUuVv WITH HORIZ",
   "ONTAL BARuYtBu WITH DOT ABOVEzfBELOWzbFLOURISHzbHOOKzbLINE BELOWzbMIDDLE TILDEzbPALATAL HOOKzb",
   "STROKEzbTOPBARuARRED ALPHAzbEzbOvSELINE ESHuETAuLACKLETTER EzgOzh WITH STROKEuOTTOM HALF OuROK",
   "EN LtCu WITH ACUTEzbBARzbCARONzcEDILLAzi AND ACUTEzcIRCUMFLEXzcURLzbDOT ABOVEzbHOOKzbPALATAL H",
   "OOKzbRETROFLEX HOOKzbSTROKEuHIw WITH LOW LEFT SERIFzhRIGHT RINGuLOSED INSULAR GzbOMEGAzcPEN Ez",
   "bREVERSED OPEN EuONuUATRILLOzd WITH COMMAtDu WITH CARONzcEDILLAzcIRCUMFLEX BELOWzcURLzbDOT ABO",
   "VEzfBELOWzbHOOKzf AND TAILzbLINE BELOWzbMIDDLE TILDEzbPALATAL HOOKzbSHORT STROKE OVERLAYzcTROK",
   "EzbTAILzcOPBARuB DIGRAPHuELTAvZH DIGRAPHzg WITH PALATAL HOOKzmRETROFLEX HOOKuOTLESS IzcJzd WIT",
   "H STROKEzp AND HOOKvUBLE Rzc WITH CROSSED-TAILzbTHORNzbWYNNuUMuZv DIGRAPHze WITH CURLzkRETROFL",
   "EX HOOKwWITH CARONtEu WITH ACUTEzbBREVEzbCARONzcEDILLAzi AND BREVEzcIRCUMFLEXzl AND ACUTEzqDOT",
   " BELOWzqGRAVEzqHOOK ABOVEzqTILDEzmBELOWzbDIAERESISzcOT ABOVEzfBELOWzdUBLE GRAVEzbFLOURISHzbGRA",
   "VEzbHOOK ABOVEzbINVERTED BREVEzbMACRONzh AND ACUTEzmGRAVEzbNOTCHzbOGONEKzbRETROFLEX HOOKzbSTRO",
   "KEzbTILDEzg BELOWuGYPTOLOGICAL AINzjLEFuNGw WITH CROSSED-TAILzdPALATAL HOOKuSHw WITH CURLzdDOU",
   "BLE BARzn AND CURLzdPALATAL HOOKzdRETROFLEX HOOKuTvHuZHw REVERSEDxWITH CARONzeURLzdPALATAL HOO",
   "KzdRETROFLEX HOOKzdTAILtFu WITH DOT ABOVEzbHOOKzbMIDDLE TILDEzbPALATAL HOOKzbSTROKEuENG DIGRAP",
   "Hzg WITH TRILLtGu WITH ACUTEzbBREVEzbCARONzcEDILLAzcIRCUMFLEXzbDOT ABOVEzbHOOKzbMACRONzbOBLIQU",
   "E STROKEzbPALATAL HOOKzbSTROKEuAMMAuHAuLOTTAL AzcIzcSTOPzcUtHu WITH BREVE BELOWzbCARONzcEDILLA",
   "zcIRCUMFLEXzbDESCENDERzcIAERESISzcOT ABOVEzfBELOWzbHOOKzbLINE BELOWzbPALATAL HOOKzbSTROKEuALF ",
   "HuENGx WITH HOOKuVtIu WITH ACUTEzbBREVEzbCARONzcIRCUMFLEXzbDIAERESISzk AND ACUTEzcOT BELOWzdUB",
   "LE GRAVEzbGRAVEzbHOOK ABOVEzbINVERTED BREVEzbMACRONzbOGONEKzbRETROFLEX HOOKzbSTROKEzh AND RETR",
   "OFLEX HOOKzbTILDEzg BELOWuNSULAR DzcFzcGzcRzcSzcTvVERTED ALPHAzdOEuOTAx WITH STROKEwIFIED EuSt",
   "Ju WITH CARONzcIRCUMFLEXzcROSSED-TAILzbSTROKEtKu WITH ACUTEzbCARONzcEDILLAzbDESCENDERzcIAGONAL",
   " STROKEzcOT BELOWzbHOOKzbLINE BELOWzbOBLIQUE STROKEzbPALATAL HOOKzbSTROKEzh AND DIAGONAL STROK",
   "EuRAtLu WITH ACUTEzbBARzcELTzf AND PALATAL HOOKzbCARONzcEDILLAzcIRCUMFLEX BELOWzcURLzbDOT BELO",
   "Wzk AND MACRONzdUBLE BARziMIDDLE TILDEzbFISHHOOKzbHIGH STROKEzbINVERTED LAZY SzbLINE BELOWzbMI",
   "DDLE DOTziRINGziTILDEzbPALATAL HOOKzbRETROFLEX HOOKzp AND BELTzbSTROKEuAMBDA WITH STROKEuENIS ",
   "FvZHx WITH RETROFLEX HOOKuJuONG Sza WITH DIAGONAL STROKEzhOT ABOVEzgHIGH STROKEuS DIGRAPHuUMuZ",
   " DIGRAPHtMu WITH ACUTEzbCROSSED-TAILzbDOT ABOVEzfBELOWzbHOOKzbMIDDLE TILDEzbPALATAL HOOKuIDDLE",
   " SCOTS Sza-WELSH LLzhVuUMtNu PRECEDED BY APOSTROPHEvWITH ACUTEzbCARONzcEDILLAzcIRCUMFLEX BELOW",
   "zcROSSED-TAILzcURLzbDESCENDERzcOT ABOVEzfBELOWzbGRAVEzbLEFT HOOKzcINE BELOWzcONG RIGHT LEGzbMI",
   "DDLE TILDEzbOBLIQUE STROKEzbPALATAL HOOKzbRETROFLEX HOOKzbTILDEuJuUMtOu WITH ACUTEzbBREVEzbCAR",
   "ONzcIRCUMFLEXzl AND ACUTEzqDOT BELOWzqGRAVEzqHOOK ABOVEzqTILDEzbDIAERESISzk AND MACRONzcOT ABO",
   "VEzk AND MACRONzfBELOWzdUBLE ACUTEziGRAVEzbGRAVEzbHOOK ABOVEzdRNzf AND ACUTEzkDOT BELOWzkGRAVE",
   "zkHOOK ABOVEzkTILDEzbINVERTED BREVEzbLONG STROKE OVERLAYzdOPzdW RING INSIDEzbMACRONzh AND ACUT",
   "EzmGRAVEzbOGONEKzh AND MACRONzbRETROFLEX HOOKzbSTROKEzh AND ACUTEzbTILDEzg AND ACUTEzlDIAERESI",
   "SzlMACRONuIuLD POLISH OuMEGAuOuPEN Eza WITH RETROFLEX HOOKyOza WITH RETROFLEX HOOKzgSTROKEzaEu",
   "UtPu WITH ACUTEzbDOT ABOVEzbFLOURISHzbHOOKzbMIDDLE TILDEzbPALATAL HOOKzbSQUIRREL TAILzcTROKEzh",
   " THROUGH DESCENDERuHItQu WITH DIAGONAL STROKEzbHOOKzf TAILzbSTROKE THROUGH DESCENDERuP DIGRAPH",
   "tRu ROTUNDAvWITH ACUTEzbCARONzcEDILLAzcROSSED-TAILzbDOT ABOVEzfBELOWzk AND MACRONzdUBLE GRAVEz",
   "bFISHHOOKzj AND MIDDLE TILDEzoPALATAL HOOKzbINVERTED BREVEzbLINE BELOWzcONG LEGzbMIDDLE TILDEz",
   "bOBLIQUE STROKEzbPALATAL HOOKzbSTROKEzbTAILzaOUT HANDLEuAMS HORNuEVERSED Cze WITH DOTzdEzeNGzd",
   "HALF HzdKzdOPEN Ezj WITH HOOKzpRETROFLEX HOOKzdR WITH FISHHOOKzdSCRIPT GuUMw ROTUNDAtSu WITH A",
   "CUTEzg AND DOT ABOVEzbCARONzg AND DOT ABOVEzcEDILLAzcIRCUMFLEXzcOMMA BELOWzcURLzbDOT ABOVEzfBE",
   "LOWzk AND DOT ABOVEzbHOOKzbMIDDLE TILDEzbOBLIQUE STROKEzbPALATAL HOOKzbSHORT STROKE OVERLAYzcW",
   "ASH TAILuAKHA YATvLTILLOuCHWAy WITH HOOKzfRETROFLEX HOOKvRIPT Gzc WITH CROSSED-TAILzbRzc WITH ",
   "RINGuHARP SuIDEWAYS DIAERESIZED UzdOze WITH STROKEzePEN OzdTURNED MzdUvGMOID SuQUAT REVERSED E",
   "SHuTIRRUP RtTu WITH CARONzcEDILLAzcIRCUMFLEX BELOWzcOMMA BELOWzcURLzbDIAERESISzeGONAL STROKEzc",
   "OT ABOVEzfBELOWzbHOOKzf AND RETROFLEX HOOKzbLINE BELOWzbMIDDLE TILDEzbPALATAL HOOKzbRETROFLEX ",
   "HOOKzbSTROKEuAILLESS PHIuC DIGRAPH WITH CURLuESH DIGRAPHzg WITH PALATAL HOOKzmRETROFLEX HOOKuH",
   " WITH STRIKETHROUGHvORNy WITH STROKEzl THROUGH DESCENDERuONE FIVEySIXyTWOvP HALF OuRESILLOuS D",
   "IGRAPHze WITH RETROFLEX HOOKuUMvRNED AzcEzcLPHAzbDELTAzbEzbGzbHzc WITH FISHHOOKzq AND TAILzbIz",
   "cNSULAR GzbKzbLzbMzc WITH LONG LEGzbO OPEN-Ozj WITH STROKEzcEzd WITH HORIZONTAL STROKEzjSTROKE",
   "zcPEN EzbRzc WITH HOOKziLONG LEGzq AND RETROFLEX HOOKziMIDDLE TILDEziPALATAL HOOKziTAILzbTzc W",
   "ITH CURLzbUIzbVzbWzbYzc WITH BELTuZtUu BARy WITH SHORT RIGHT LEGvWITH ACUTEzbBREVEzbCARONzcIRC",
   "UMFLEXzl BELOWzbDIAERESISzk AND ACUTEzpCARONzpGRAVEzpMACRONzlBELOWzcOT BELOWzdUBLE ACUTEziGRAV",
   "EzbGRAVEzbHOOK ABOVEzdRNzf AND ACUTEzkDOT BELOWzkGRAVEzkHOOK ABOVEzkTILDEzbINVERTED BREVEzbLEF",
   "T HOOKzbMACRONzh AND DIAERESISzbOGONEKzbRETROFLEX HOOKzcING ABOVEzbSHORT RIGHT LEGzcTROKEzbTIL",
   "DEzg AND ACUTEzhBELOWuEuIuMuOuPSILONzb WITH STROKEtVu WITH CURLzbDIAGONAL STROKEzcOT BELOWzbHO",
   "OKzbPALATAL HOOKzbRIGHT HOOKzbTILDEuENDuISIGOTHIC ZuOLAPUK AEzcOEzcUEuYtWu WITH ACUTEzbCIRCUMF",
   "LEXzbDIAERESISzcOT ABOVEzfBELOWzbGRAVEzbHOOKzbRING ABOVEtXu WITH DIAERESISzcOT ABOVEzbLONG LEF",
   "T LEGzo AND LOW RIGHT RINGzpWITH SERIFzdW RIGHT RINGzbPALATAL HOOKtYu WITH ACUTEzbCIRCUMFLEXzb",
   "DIAERESISzcOT ABOVEzfBELOWzbGRAVEzbHOOKzf ABOVEzbLOOPzbMACRONzbRING ABOVEzbSHORT RIGHT LEGzcTR",
   "OKEzbTILDEuOGHtZu WITH ACUTEzbCARONzcIRCUMFLEXzcURLzbDESCENDERzcOT ABOVEzfBELOWzbHOOKzbLINE BE",
   "LOWzbMIDDLE TILDEzbPALATAL HOOKzbRETROFLEX HOOKzbSTROKEzcWASH TAILnIGATURE FFxIxLwIwLvIJvLONG ",
   "S TvOEvSThUBSCRIPT SMALL LETTER AzeEzeHzeIzeJzeKzeLzeMzeNzeOzePzeRzeSzfCHWAzeTzeUzeVzeXbEAF FL",
   "UTTERING IN WINDeY GREENcDGERcFT AND LOWER AND RIGHT TRIANGULAR THREE QUARTERS BLOCKpONE EIGHT",
   "H BLOCKjRIGHT DOUBLE TURNSTILEpTACKqRIANGULAR HALF BLOCKjUPPER AND RIGHT TRIANGULAR THREE QUAR",
   "TERS BLOCKpONE EIGHTH BLOCKhGER BUBBLEiLE BRACKETs WITH DOTgRC LESS-THAN BRACKEThROW WITH CIRC",
   "LED PLUSqSMALL CIRCLEfBARB DOWN RIGHT BARB DOWN HARPOONzbUP HARPOONkUP RIGHT BARB DOWN HARPOON",
   "yUP HARPOONgLACK LENTICULAR BRACKETlTORTOISE SHELL BRACKETfCEILINGgLOSED ENTRYgORNER BRACKETgU",
   "RLY BRACKETs LOWER HOOKtMIDDLE PIECEtUPPER HOOKfDOTTED SUBSTITUTION BRACKEThUBLE ANGLE BRACKET",
   "mPARENTHESISmQUOTATION MARKmWIGGLY FENCEfFISH TAILhVE EIGHTHS BLOCKgLOORfHALF BLACK CIRCLEqSTA",
   "RmOCKkCIRCLEq WITH DOTwFOUR DOTSwTHREE DOTSxWO DOTSkFOLDERkINVERSE MEDIUM SHADE AND RIGHT HALF",
   " BLOCKkMEDIUM SHADEkRUNNING MANhND TELEPHONE RECEIVERfLOW PARAPHRASE BRACKETgUGGAGEfMULTIMAPfN",
   "ORMAL FACTOR SEMIDIRECT PRODUCTfONE EIGHTH BLOCKjQUARTER BLOCKgUTER JOINfPARENTHESISq EXTENSIO",
   "NrLOWER HOOKrUPPER HOOKfRAISED OMISSION BRACKETgIGHT ARROWq THROUGH SMALL CIRCLErWITH DOUBLE V",
   "ERTICAL STROKEwSTROKEwVERTICAL STROKElBLACK ARROWlDOUBLE ARROWx WITH STROKEzeVERTICAL STROKElO",
   "PEN-HEADED ARROWlSANS-SERIF ARROWlTRIANGLE-HEADED ARROWlWAVE ARROWmHITE ARROWfS-SHAPED BAG DEL",
   "IMITERgEMIDIRECT PRODUCThVEN EIGHTHS BLOCKgIDEWAYS U BRACKEThNGLE QUOTATION MARKgPEECH BUBBLEg",
   "QUARE BRACKETt EXTENSIONuLOWER CORNERuUPPER CORNERuWITH DOUBLE STROKEzaQUILLzaSTROKEzaTICK IN ",
   "BOTTOM CORNERziTOP CORNERzaUNDERBARgUBSTITUTION BRACKETfTACKgHIRD WHITE RIGHT POINTING INDEXhO",
   "UGHT BUBBLEhREE EIGHTHS BLOCKlQUARTERS BLOCKgORTOISE SHELL BRACKETgRANSPOSITION BRACKEThIANGLE",
   " BESIDE VERTICAL BARlULAR ONE QUARTER BLOCKfVERTICAL BAR WITH QUILLpOX LINEfWHITE CORNER BRACK",
   "ETmURLY BRACKETlLENTICULAR BRACKETlPARENTHESISlSQUARE BRACKETlTORTOISE SHELL BRACKETgIGGLY FEN",
   "CEgRITING HANDe-FACING ARMENIAN ETERNITY SIGNmFISTmSVASTI SIGNx WITH DOTSfHANDED INTERLACED PE",
   "NTAGRAMfPOINTING ANGLE BRACKEToCURVED ANGLE BRACKEToDOUBLE ANGLE QUOTATION MARKoMAGNIFYING GLA",
   "SSfSHADED WHITE RIGHTWARDS ARROWgIDE ARC ANTICLOCKWISE ARROWfTO-RIGHT EMBEDDINGoISOLATEoMARKoO",
   "VERRIDEeWARDS ARROWp ABOVE ALMOST EQUAL TOwREVERSE ALMOST EQUAL TOzfTILDE OPERATORwSHORT RIGHT",
   "WARDS ARROWwTILDE OPERATORrND UPPER AND LOWER ONE EIGHTH BLOCKqFROM BARy TO BLACK DIAMONDqOVER",
   " RIGHTWARDS ARROWqTHROUGH LESS-THANySUBSETyXrO BARw OVER RIGHTWARDS ARROW TO BARuLACK DIAMONDq",
   "WITH DOTTED STEMxUBLE VERTICAL STROKEvEQUILATERAL ARROWHEADvHOOKvLARGE TRIANGLE ARROWHEADwOOPv",
   "MEDIUM TRIANGLE ARROWHEADvNOTCHED TAILvPLUS BELOWvSMALL EQUILATERAL ARROWHEADzcTRIANGLE ARROWH",
   "EADwTROKEvTAILza WITH DOUBLE VERTICAL STROKEzgVERTICAL STROKEwIP DOWNWARDSzaUPWARDSvVERTICAL S",
   "TROKEp-TAILkBACK-TILTED SHADOWED WHITE ARROWlLACK ARROWqCIRCLED WHITE ARROWlOTTOM-SHADED WHITE",
   " ARROWkCOMPRESSED ARROWkDASHED ARROWlOUBLE ARROWw FROM BARxWITH STROKEzdVERTICAL STROKEw-TAILr",
   "DASH ARROWkFINGER-POST ARROWlRONT-TILTED SHADOWED WHITE ARROWkHANDmRPOON OVER RIGHTWARDS HARPO",
   "ONsWITH BARB DOWN ABOVE RIGHTWARDS HARPOON WITH BARB DOWNziBELOW LONG DASHziFROM BARziTO BARzh",
   "WARDSzdUP ABOVE LEFTWARDS HARPOON WITH BARB DOWNznONG DASHzmRIGHTWARDS HARPOON WITH BARB UPzgF",
   "ROM BARzgTO BARzfWARDSlEAVY ARROWqCOMPRESSED ARROWkLEFT-SHADED WHITE ARROWkOPEN-HEADED ARROWkP",
   "AIRED ARROWSkQUADRUPLE ARROWkRIGHT-SHADED WHITE ARROWlOCKETkSANS-SERIF ARROWlQUARED ARROWnIGGL",
   "E ARROWkTOP SHADED WHITE ARROWlRIANGLE ARROWHEADs-HEADED ARROWzg OVER RIGHTWARDS TRIANGLE-HEAD",
   "ED ARROWzhTO BARzhWITH BOLD SHAFTzmDOUBLE HORIZONTAL STROKEztVERTICAL STROKEzmHEAVY SHAFTzmLON",
   "G TIP DOWNWARDSzvUPWARDSzmMEDIUM SHAFTzmNARROW SHAFTzmVERY HEAVY SHAFTzbDASHED ARROWzbPAIRED A",
   "RROWSnPLE ARROWrDASH ARROWlWO HEADED ARROWn-HEADED ARROW FROM BARzcWITH DOUBLE VERTICAL STROKE",
   "zhTAILzl WITH DOUBLE VERTICAL STROKEzrVERTICAL STROKEziRIANGLE ARROWHEADSzhVERTICAL STROKEvTRI",
   "PLE DASH ARROWkWAVE ARROWlHITE ARROWv WITHIN TRIANGLE ARROWHEADcGcMONcOdPARDcPCHA CONSONANT SI",
   "GN KxANGwLwMwNxYIN-DOwPwRwThDIGIT EIGHTnFIVEoOURnNINEnONEnSEVENoIXnTHREEoWOnZEROhLETTER AoBApL",
   "AoCApHAoDApDApZAoFApLAoGApLAoHApLAoJAoKApHApLAoLAoMApLAoNApGApYAoPApHApLAoRAoSApHAoTApHApSAqHA",
   "pTAqHAoVAoWAoYAhPUNCTUATION CER-WAtNYET THYOOM TA-ROLtTA-ROLuSHOOKza CER-WAhSIGN NUKTAmRANiUBJ",
   "OINED LETTER RAyYAhVOWEL SIGN AAsEsIsOtOsUtUcSS-THAN ABOVE DOUBLE-LINE EQUAL ABOVE GREATER-THA",
   "NqGREATER-THAN ABOVE DOUBLE-LINE EQUALqLEFTWARDS ARROWqSIMILAR ABOVE GREATER-THANyOR EQUALrLAN",
   "TED EQUAL ABOVE GREATER-THAN ABOVE SLANTED EQUALlND NOT APPROXIMATEoSINGLE-LINE NOT EQUAL TOkB",
   "UT NOT EQUAL TOvIVALENT TOkCLOSED BY CURVEza ABOVE SLANTED EQUALkEQUAL TO OR GREATER-THANkOR A",
   "PPROXIMATEnEQUAL TOqIVALENT TOnGREATER-THANnSLANTED EQUAL TOze WITH DOT ABOVEzt RIGHTzoINSIDEl",
   "VER EQUAL TOkSIGNkWITH CIRCLE INSIDEpDOTpQUESTION MARK ABOVEcVEL SLIDERbFbIBRAcGATURE OPEN ET ",
   "ORNAMENTdHT CHECK MARKgEIGHT SPOKED ASTERISKgFIVE POINTED BLACK STARlSPOKED ASTERISKhOUR POINT",
   "ED BLACK CUSPzaSTARgGREEK CROSSgLEFT TORTOISE SHELL BRACKET ORNAMENTgRAILhIGHT TORTOISE SHELL ",
   "BRACKET ORNAMENTgSALTIREhHADEhIX SPOKED ASTERISKgTHREE POINTED BLACK STARhWELVE POINTED BLACK ",
   "STARgVERTICAL BARgWHITE SQUAREfNINGj MOODo BUBBLEcMBU DIGIT EIGHTmFIVEnOURmNINEmONEmSEVENnIXmT",
   "HREEnWOmZEROgEXCLAMATION MARKgLETTER BAoHAnCAoHAnDAoHAnGAoHAoYANnHAnJAoHAnKAoHAnLAnMAnNAoGAnPA",
   "oHAnRAnSAoHAoSAnTAoHAoRAnWAnYApNgQUESTION MARKgSIGN KEMPHRENGlLOOlMUKPHRENGlSA-IhMALL LETTER A",
   "NUSVARAtKAtLAtMAtNAuGAtPAtRAtTAhUBJOINED LETTER RAxWAxYAgVOWEL SIGN AsIsUrEsErIrOsOrUl-CARRIER",
   " LETTERdITED LIABILITY SIGNcNE FEEDfINTEGRATION NOT INCLUDING THE POLErWITH RECTANGULAR PATH A",
   "ROUND POLEwSEMICIRCULAR PATH AROUND POLEfSEPARATORfTABULATIONp SETeAR A SIGN A028Bp100-102q20B",
   "q31Cp301r2r3r4r5r6r7r8r9AsBsCq10r1r2r3AsBsCr4r5r6r7r8r9q20r1r2r3r4r5r6r7r8r9q30r1r2r3r4r5r6r7r",
   "8r9q40r1r2r3r4r5r6r7r8r9q50r1r2r3r4r5r6r7r8r9q60r1r2r3r4r5r6r7r8r9q70r1p400-VASr1-VASr2-VASr3-",
   "VASr4-VASr5-VASr6-VASr7-VASr8-VASr9-VASq10-VASr1-VASr2-VASr3-VASr4-VASr5-VASr6-VASr7-VASr8-VAS",
   "p501r2r3r4r5r6r8r9q10r1r2r3r5r6q20r1r3r4r5r6r7r8r9q30r1r2r4r5r6r7r8r9q40r1r2r5r7r8r9q50r1r2r3r",
   "4r5r6r7r9q63r4r5r6r8r9q70r1r2r3r4r5r6r7r8r9q80r1r2r3r4r5r6r7r8r9q91r2r4r5r6r8p600r1r2r3r4r6r8r",
   "9q10r1r2r3r4r5r6r7r8r9q20r1r2r3r4r6r7r8r9q34r7r8q40r2r3r4r5r6r8r9q51r2r3r4r5r6r7r8r9q60r1r2r3r",
   "4p701 Ar2 Br3 Dr4 Er5 Fr6 Hr7 Jr8 Kr9 Ls-2 L2t3 L3t4 L4t6 L6q10 Wr1 Xr2 Yr3 OMEGAr4 ABBr5 BBr7",
   " DDq26 EYYYq32 JEp800r1r2r3r4r5r6r7pB001s2s3s4s5s6s7s8s9r10s1s3s6s7r20s1tFtMs2tFtMs3tMs4s6s7s8",
   "s9r30s1s4s7s8s9r40s1s4s5s6s7s8s9r50s1s3s4s5s6s7s8s9r60s1s5s6s7s9r70s3s4s6s7s8s9r80s1s2s5s6s7q1",
   "18r20s2s3r31AtBr64r71r80s8r91hB IDEOGRAM B100 MANv2 WOMANv4 DEERv5 EQUIDwF MAREwM STALLIONv6F ",
   "EWEwM RAMv7F SHE-GOATwM HE-GOATv8F SOWwM BOARv9F COWwM BULLu20 WHEATv1 BARLEYv2 OLIVEv3 SPICEv",
   "5 CYPERUSu30 OILv1 WINEv2u40 BRONZEv1 GOLDv2v5 WOOLv6u50v1 HORNv2v3v4v7v8v9 CLOTHu60v1v2 GARME",
   "NTv3 ARMOURv4v5v6v7v8v9u70v1v2v3 MONTHv4v6 TREEv7v8v9u80v1v2v3v4v5v9u90v1 HELMETt220 FOOTSTOOL",
   "v5 BATHTUBu30 SPEARv1 ARROWv2v3 SWORDv4v6u40 WHEELED CHARIOTv1 CHARIOTv2 CHARIOT FRAMEv3 WHEEL",
   "v5v6v8v9u51v2v3v4 DARTv5v6v7v8v9sVESSEL B155zb200zd1zd2zd3zd4zd5zd6zd7zd8zd9zc10zd1zd2zd3zd4zd",
   "5zd6zd7zd8zd9zc21zd2zd6zd7zd8zd9zc50zb305jMONOGRAM B127 KAPOv8 KANAKOu33 AREPAv5 MERIu56 TURO2",
   "t247 DIPTEjSYLLABLE B001 DAv2 ROv3 PAv4 TEv5 TOv6 NAv7 DIv8 Av9 SEu10 Uv1 POv2 SOv3 MEv4 DOv5 ",
   "MOv6 QAv7 ZAu20 ZOv1 QIv3 MUv4 NEv5 A2v6 RUv7 REv8 Iv9 PU2u30 NIv1 SAv2 QOv3 RA3v6 JOv7 TIv8 E",
   "v9 PIu40 WIv1 SIv2 WOv3 A3v4 KEv5 DEv6 JEv8 NWAu50 PUv1 DUv2 NOv3 RIv4 WAv5 NUv7 JAv8 SUv9 TAu",
   "60 RAv1 Ov2 PTEv5 JUv6 TA2v7 KIv8 RO2v9 TUu70 KOv1 DWEv2 PEv3 MIv4 ZEv5 WEv6 RA2v7 KAv8 QEu80 ",
   "MAv1 KUv5 AUv7 TWEu90 DWOv1 TWOlMBOL B018t9s22s34s47t9s56s63t4s79s82t3t6t9dK SYMBOLeED PAPERCL",
   "IPScON FACEcPSeTICKcRA SIGNcSU LETTER AnEmBAmCAnHAmDAnZAmEnUmFAmGAnHAmHAnHAmImJAmKAnHAmLAmMAmN",
   "AnGAmOnEmPAnHAmSAnHAmTAnHAnONE MYA BOvCYAvJEUvNAvTIrNA POnSAoHAmUnEnHmWAmXAmYAnHAmZAnHAfPUNCTU",
   "ATION COMMArFULL STOPcVRE TOURNOIS SIGNcZARDbLAMAbOBSTERcCKe WITH INK PENeING-SHIFT ONEoZEROcG",
   "ICAL ANDl WITH DOT ABOVEtUBLE OVERBARyUNDERBARrHORIZONTAL DASHrMIDDLE STEMrUNDERBARiORk OVERLA",
   "PPING LOGICAL ANDlWITH DOT ABOVEsUBLE OVERBARxUNDERBARqHORIZONTAL DASHqMIDDLE STEMcLLIPOPcNG D",
   "ASH FROM LEFT MEMBER OF DOUBLE VERTICALgIVISIONgRUMfLEFT RIGHT ARROWqDOUBLE ARROWkTACKjWARDS A",
   "RROWu FROM BARpDOUBLE ARROWzc FROM BARpSQUIGGLE ARROWfRIGHT TACKkWARDS ARROWv FROM BARqDOUBLE ",
   "ARROWzd FROM BARqSQUIGGLE ARROWcTION BOTTLEdUScUDLY CRYING FACEcVE HOTELfLETTERcW ASTERISKeBAT",
   "TERYfRIGHTNESS SYMBOLeDOUBLE PRIME QUOTATION MARKeKAVYKAk WITH DOTeLINEdER BLADE SCISSORSgFIVE",
   " EIGHTHS BLOCKgHALF BLOCKlCIRCLElINVERSE WHITE CIRCLElMEDIUM SHADEgLEFT BALLPOINT PENmLOCK DIA",
   "GONAL LOWER MIDDLE LEFT TO LOWER CENTREzzdRIGHTzbUPPER CENTRE TO LOWER MIDDLE RIGHTzxRIGHTzrUP",
   "PER MIDDLE RIGHTzhLEFT TO LOWER CENTREzvMIDDLE RIGHTzpUPPER MIDDLE RIGHTzhMIDDLE LEFT TO LOWER",
   " CENTREzzdMIDDLE RIGHTzzdRIGHTlCRAYONlFOUNTAIN PENlPAINTBRUSHmENCILlQUADRANT CIRCULAR ARClSEMI",
   "CIRCULAR ANTICLOCKWISE ARROWlTRIANGLErULAR MEDIUM SHADEgONE EIGHTH BLOCKkQUARTER BLOCKgRIGHT B",
   "LOCK DIAGONAL LOWER CENTRE TO LOWER MIDDLE RIGHTzsUPPER MIDDLE RIGHTzyRIGHTziLEFT TO LOWER MID",
   "DLE RIGHTzqUPPER CENTREzwMIDDLE RIGHTziMIDDLE LEFT TO UPPER CENTREzzeMIDDLE RIGHTzzeRIGHTzcUPP",
   "ER MIDDLE LEFT TO UPPER CENTREzzeRIGHTmCORNER WITH DOTmDROP-SHADOWED WHITE SQUAREmPENCILmQUADR",
   "ANT CIRCULAR ARCmSEMICIRCULAR CLOCKWISE ARROWnHADOWED WHITE CIRCLEzcSQUAREmTRIANGLEsULAR MEDIU",
   "M SHADEgSEVEN EIGHTHS BLOCKgTHREE EIGHTHS BLOCKmQUARTERS BLOCKhRIANGULAR ONE QUARTER BLOCKcZEN",
   "GEh DIVIDED BY HORIZONTAL RULEbREcIcMcObUGGAGEcNGSbYCIAN LETTER ApNoBpHoDoEpNoGoHoIoJoKpKoLoMp",
   "MoNpNoPoQoRoSoTpHpToUoWoXoZcDIAN LETTER ApNoBoCoDoEpNoFoGoIoKoLpYoMoNpNoOoQoRoSpSoTpToUoVoYhTR",
   "IANGULAR MARKcING FACEaMACRONcGEdIC WANDdNETcHAJANI ABBREVIATION SIGNjLETTER AqBArHAqCArHAqDAr",
   "DAsHArHAqEqGArHAqHAqIqJArHAqKArHAqLAqMAqNArNArYAqOqPArHAqRArRAqSAqTArHArTAsHAqUqVAkIGATURE SHR",
   "IjSECTION MARKkIGN NUKTAdJONG TILE AUTUMNnBACKpMBOOnCHRYSANTHEMUMnEAST WINDoIGHT OF BAMBOOSwCH",
   "ARACTERSxIRCLESnFIVE OF BAMBOOSvCHARACTERSwIRCLESoOUR OF BAMBOOSvCHARACTERSwIRCLESnGREEN DRAGO",
   "NnJOKERnNINE OF BAMBOOSvCHARACTERSwIRCLESoORTH WINDnONE OF BAMBOOSuCHARACTERSvIRCLESoRCHIDnPLU",
   "MnRED DRAGONnSEVEN OF BAMBOOSwCHARACTERSxIRCLESoIX OF BAMBOOSuCHARACTERSvIRCLESoOUTH WINDoPRIN",
   "GoUMMERnTHREE OF BAMBOOSwCHARACTERSxIRCLESoWO OF BAMBOOSuCHARACTERSvIRCLESnWEST WINDoHITE DRAG",
   "ONoINTERcKASAR ANGKAiEND OF SECTIONiLETTER ApBApCApDApGApJApKApLApMApNAqGAqYApPApRApSApTApVApY",
   "AiPASSIMBANGiVOWEL SIGN EtItOtUcLAYALAM AU LENGTH MARKkDATE MARKlIGIT EIGHTqFIVErOURqNINEqONEq",
   "SEVENrIXqTHREErWOqZEROkFRACTION ONE EIGHTHxFIFTHyORTIETHxHALFxONE-HUNDRED-AND-SIXTIETHxQUARTER",
   "xSIXTEENTHxTENTHyWENTIETHtTHREE EIGHTIETHSzaQUARTERSzaSIXTEENTHSzaTWENTIETHSkLETTER AsAsIsRCHA",
   "IC IIsUrBAsHArCAsHAtILLU KyLzaLzbLyMyNzaNyRRyYrDAsDAtHAsHAsOT REPHrEsErGAsHArHArIsIrJAsHArKAsH",
   "ArLAsLAtLArMArNAsGAsNAtNAsYArOsOrPAsHArRAsRArSAsHAsSArTAsHAsTAtHAtTArUsUrVAsEDIC ANUSVARAsOCAL",
   "IC LzbLzaRzbRrYAkNUMBER ONE HUNDREDvTHOUSANDrTENkSIGN ANUSVARAqVAGRAHApCANDRABINDUqIRCULAR VIR",
   "AMAqOMBINING ANUSVARA ABOVEpPARApVERTICAL BAR VIRAMAqIRAMArSARGAkVOWEL SIGN AAwIwUvEwEvIwIvOwO",
   "vUwUvVOCALIC LzfLzeRzfRdE AND FEMALE SIGNfSIGNfWITH STROKE AND MALE AND FEMALE SIGNrSIGNdTESE ",
   "CROSScMMOTHcNd AND WOMAN HOLDING HANDSeDANCINGeIN BUSINESS SUIT LEVITATINGhTUXEDOeWITH GUA PI ",
   "MAOjTURBANdAT SIGNdDAIC AFFRICATION MARKiGEMINATION MARKiLETTER ABqDqGqHqINqKrSAqLqMqNqPqQqRqS",
   "rHrZqTrTqZpDUSHENNApHALQApINqTpKADpUSHENNAiPUNCTUATIONiVOCALIZATION MARKdGOdICHAEAN ABBREVIATI",
   "ON MARK ABOVEzeBELOWlLETTER AAYINtLEPHtYINsBETHtHETHsDALETHtHAMEDHsFEsGHIMELtIMELsHEuTHsJAYINt",
   "HAYINsKAPHtHAPHsLAMEDHsMEMsNUNsPEsQHOPHtOPHsRESHsSADHEuMEKHtHINtSHINsTAWtETHtHAMEDHsWAWsXAPHtO",
   "PHsYODHsZAYINtHAYINlNUMBER FIVEsONEv HUNDREDsTENtWENTYlPUNCTUATION DOTzb WITHIN DOTzaUBLE DOT ",
   "WITHIN DOTxFLEURONxLINE FILLERxSTARxTWO DOTSlSIGN UDdS SHOEdTELPIECE CLOCKdUAL WHEELCHAIRcP SY",
   "MBOL FOR LIGHTHOUSEdLE LEAFcRCHEN HEAD MARKiLETTER -ApApBApCAqHApDAqZApGApHApJApKAqHApLApMApNA",
   "qGAqYApPAqHApRApSAqHApTAqHAqSArHApWApYApZAqHAiMARK SHADiSIGN ANUSVARAnCANDRABINDUjUBJOINED LET",
   "TER AzaBAzaCAzbHAzaDAzbZAzaGAzaHAzaJAzaKAzbHAzaLAzaMAzaNAzbGAzbYAzaPAzbHAzaRAzaSAzbHAzaTAzbHAz",
   "bSAzcHAzaWAzaYAzaZAzbHAiVOWEL SIGN AAtEtItOtUdRIAGE SYMBOLdTIAL ARTS UNIFORMcSARAM GONDI DIGIT",
   " EIGHTuFIVEvOURuNINEuONEuSEVENvIXuTHREEvWOuZEROoLETTER AwAwIwUvBAwHAvCAwHAvDAwDAxHAwHAvEvGAwHA",
   "vHAvIwIvJAwHAwNYAvKAwHAwSSAvLAwLAvMAvNAwGAwNAwYAvOvPAwHAvRAvSAwHAwSAvTAwHAwRAwTAxHAvUwUvVAvYAo",
   "RA-KARApEPHAoSIGN ANUSVARAtCANDRAtHALANTAtNUKTAtVISARGAoVIRAMApOWEL SIGN AAzbIzbUzaEzaIzbIzaOz",
   "aUzbUzaVOCALIC RdCULINE ORDINAL INDICATORdK WORK SYMBOLdU MARKcTE DRINKdHEMATICAL BOLD CAPITAL",
   " AzcLPHAzbBzcETAzbCzcHIzbDzcELTAzcIGAMMAzbEzcPSILONzcTAzbFzbGzcAMMAzbHzbIzcOTAzbJzbKzcAPPAzbLz",
   "cAMDAzbMzcUzbNzcUzbOzcMEGAzdICRONzbPzcHIzcIzcSIzbQzbRzcHOzbSzcIGMAzbTzcAUzcHETAzg SYMBOLzbUzcP",
   "SILONzbVzbWzbXzcIzbYzbZzcETAsDIGIT EIGHTyFIVEzaOURyNINEyONEySEVENzaIXyTHREEzaWOyZEROsEPSILON S",
   "YMBOLsFRAKTUR CAPITAL AzjBzjCzjDzjEzjFzjGzjHzjIzjJzjKzjLzjMzjNzjOzjPzjQzjRzjSzjTzjUzjVzjWzjXzj",
   "YzjZzbSMALL AzhBzhCzhDzhEzhFzhGzhHzhIzhJzhKzhLzhMzhNzhOzhPzhQzhRzhSzhTzhUzhVzhWzhXzhYzhZsITALI",
   "C CAPITAL AzjLPHAziBzjETAziCzjHIziDzjELTAziEzjPSILONzjTAziFziGzjAMMAziHziIzjOTAziJziKzjAPPAziL",
   "zjAMDAziMzjUziNzjUziOzjMEGAzkICRONziPzjHIzjIzjSIziQziRzjHOziSzjIGMAziTzjAUzjHETAzn SYMBOLziUzj",
   "PSILONziVziWziXzjIziYziZzjETAzaEPSILON SYMBOLzaKAPPA SYMBOLzaNABLAzaPARTIAL DIFFERENTIALzbHI S",
   "YMBOLzbI SYMBOLzaRHO SYMBOLzaSMALL AzhLPHAzgBzhETAzgCzhHIzgDzhELTAzgEzhPSILONzhTAzgFzhINAL SIG",
   "MAzgGzhAMMAzgHzgIzhOTAzgJzgKzhAPPAzgLzhAMDAzgMzhUzgNzhUzgOzhMEGAziICRONzgPzhHIzhIzhSIzgQzgRzhH",
   "OzgSzhIGMAzgTzhAUzhHETAzgUzhPSILONzgVzgWzgXzhIzgYzgZzhETAzaTHETA SYMBOLsKAPPA SYMBOLsNABLAsPAR",
   "TIAL DIFFERENTIALtHI SYMBOLtI SYMBOLsRHO SYMBOLsSCRIPT CAPITAL AziBziCziDziEziFziGziHziIziJziK",
   "ziLziMziNziOziPziQziRziSziTziUziVziWziXziYziZzaSMALL AzgBzgCzgDzgEzgFzgGzgHzgIzgJzgKzgLzgMzgNz",
   "gOzgPzgQzgRzgSzgTzgUzgVzgWzgXzgYzgZtMALL AzaLPHAyBzaETAyCzaHIyDzaELTAzaIGAMMAyEzaPSILONzaTAyFz",
   "aINAL SIGMAyGzaAMMAyHyIzaOTAyJyKzaAPPAyLzaAMDAyMzaUyNzaUyOzaMEGAzbICRONyPzaHIzaIzaSIyQyRzaHOyS",
   "zaIGMAyTzaAUzaHETAyUzaPSILONyVyWyXzaIyYyZzaETAsTHETA SYMBOLnDOUBLE-STRUCK CAPITAL AzkBzkDzkEzk",
   "FzkGzkIzkJzkKzkLzkMzkOzkSzkTzkUzkVzkWzkXzkYzcDIGIT EIGHTziFIVEzjOURziNINEziONEziSEVENzjIXziTHR",
   "EEzjWOziZEROzcSMALL AziBziCziDziEziFziGziHziIziJziKziLziMziNziOziPziQziRziSziTziUziVziWziXziYz",
   "iZnFALLING DIAGONALoRAKTUR CAPITAL AzeBzeDzeEzeFzeGzeJzeKzeLzeMzeNzeOzePzeQzeSzeTzeUzeVzeWzeXz",
   "eYvSMALL AzcBzcCzcDzcEzcFzcGzcHzcIzcJzcKzcLzcMzcNzcOzcPzcQzcRzcSzcTzcUzcVzcWzcXzcYzcZnITALIC C",
   "APITAL AzeLPHAzdBzeETAzdCzeHIzdDzeELTAzdEzePSILONzeTAzdFzdGzeAMMAzdHzdIzeOTAzdJzdKzeAPPAzdLzeA",
   "MDAzdMzeUzdNzeUzdOzeMEGAzfICRONzdPzeHIzeIzeSIzdQzdRzeHOzdSzeIGMAzdTzeAUzeHETAzi SYMBOLzdUzePSI",
   "LONzdVzdWzdXzeIzdYzdZzeETAuEPSILON SYMBOLuKAPPA SYMBOLuNABLAuPARTIAL DIFFERENTIALvHI SYMBOLvI ",
   "SYMBOLuRHO SYMBOLuSMALL AzcLPHAzbBzcETAzbCzcHIzbDzcELTAzcOTLESS IzjJzbEzcPSILONzcTAzbFzcINAL S",
   "IGMAzbGzcAMMAzbIzcOTAzbJzbKzcAPPAzbLzcAMDAzbMzcUzbNzcUzbOzcMEGAzdICRONzbPzcHIzcIzcSIzbQzbRzcHO",
   "zbSzcIGMAzbTzcAUzcHETAzbUzcPSILONzbVzbWzbXzcIzbYzbZzcETAuTHETA SYMBOLnLEFT ANGLE BRACKETsDOUBL",
   "E ANGLE BRACKETsFLATTENED PARENTHESISsWHITE SQUARE BRACKETyTORTOISE SHELL BRACKETnMONOSPACE CA",
   "PITAL AzgBzgCzgDzgEzgFzgGzgHzgIzgJzgKzgLzgMzgNzgOzgPzgQzgRzgSzgTzgUzgVzgWzgXzgYzgZxDIGIT EIGHT",
   "zeFIVEzfOURzeNINEzeONEzeSEVENzfIXzeTHREEzfWOzeZEROxSMALL AzeBzeCzeDzeEzeFzeGzeHzeIzeJzeKzeLzeM",
   "zeNzeOzePzeQzeRzeSzeTzeUzeVzeWzeXzeYzeZnRIGHT ANGLE BRACKETtDOUBLE ANGLE BRACKETtFLATTENED PAR",
   "ENTHESIStWHITE SQUARE BRACKETzaTORTOISE SHELL BRACKETpSING DIAGONALnSANS-SERIF BOLD CAPITAL Az",
   "nLPHAzmBznETAzmCznHIzmDznELTAzmEznPSILONznTAzmFzmGznAMMAzmHzmIznOTAzmJzmKznAPPAzmLznAMDAzmMznU",
   "zmNznUzmOznMEGAzoICRONzmPznHIznIznSIzmQzmRznHOzmSznIGMAzmTznAUznHETAzr SYMBOLzmUznPSILONzmVzmW",
   "zmXznIzmYzmZznETAzeDIGIT EIGHTzkFIVEzlOURzkNINEzkONEzkSEVENzlIXzkTHREEzlWOzkZEROzeEPSILON SYMB",
   "OLzeITALIC CAPITAL AzuLPHAztBzuETAztCzuHIztDzuELTAztEzuPSILONzuTAztFztGzuAMMAztHztIzuOTAztJztK",
   "zuAPPAztLzuAMDAztMzuUztNzuUztOzuMEGAzvICRONztPzuHIzuIzuSIztQztRzuHOztSzuIGMAztTzuAUzuHETAzy SY",
   "MBOLztUzuPSILONztVztWztXzuIztYztZzuETAzlEPSILON SYMBOLzlKAPPA SYMBOLzlNABLAzlPARTIAL DIFFERENT",
   "IALzmHI SYMBOLzmI SYMBOLzlRHO SYMBOLzlSMALL AzsLPHAzrBzsETAzrCzsHIzrDzsELTAzrEzsPSILONzsTAzrFz",
   "sINAL SIGMAzrGzsAMMAzrHzrIzsOTAzrJzrKzsAPPAzrLzsAMDAzrMzsUzrNzsUzrOzsMEGAztICRONzrPzsHIzsIzsSI",
   "zrQzrRzsHOzrSzsIGMAzrTzsAUzsHETAzrUzsPSILONzrVzrWzrXzsIzrYzrZzsETAzlTHETA SYMBOLzeKAPPA SYMBOL",
   "zeNABLAzePARTIAL DIFFERENTIALzfHI SYMBOLzfI SYMBOLzeRHO SYMBOLzeSMALL AzlLPHAzkBzlETAzkCzlHIzk",
   "DzlELTAzkEzlPSILONzlTAzkFzlINAL SIGMAzkGzlAMMAzkHzkIzlOTAzkJzkKzlAPPAzkLzlAMDAzkMzlUzkNzlUzkOz",
   "lMEGAzmICRONzkPzlHIzlIzlSIzkQzkRzlHOzkSzlIGMAzkTzlAUzlHETAzkUzlPSILONzkVzkWzkXzlIzkYzkZzlETAze",
   "THETA SYMBOLyCAPITAL AzhBzhCzhDzhEzhFzhGzhHzhIzhJzhKzhLzhMzhNzhOzhPzhQzhRzhSzhTzhUzhVzhWzhXzhY",
   "zhZyDIGIT EIGHTzfFIVEzgOURzfNINEzfONEzfSEVENzgIXzfTHREEzgWOzfZEROyITALIC CAPITAL AzoBzoCzoDzoE",
   "zoFzoGzoHzoIzoJzoKzoLzoMzoNzoOzoPzoQzoRzoSzoTzoUzoVzoWzoXzoYzoZzgSMALL AzmBzmCzmDzmEzmFzmGzmHz",
   "mIzmJzmKzmLzmMzmNzmOzmPzmQzmRzmSzmTzmUzmVzmWzmXzmYzmZySMALL AzfBzfCzfDzfEzfFzfGzfHzfIzfJzfKzfL",
   "zfMzfNzfOzfPzfQzfRzfSzfTzfUzfVzfWzfXzfYzfZoCRIPT CAPITAL AzdCzdDzdGzdJzdKzdNzdOzdPzdQzdSzdTzdU",
   "zdVzdWzdXzdYzdZuSMALL AzbBzbCzbDzbFzbHzbIzbJzbKzbLzbMzbNzbPzbQzbRzbSzbTzbUzbVzbWzbXzbYzbZcXIMI",
   "ZEcYAN NUMERAL EIGHTtEENpLEVENoFIFTEENqVEpOURsTEENoNINEsTEENoONEoSEVENtTEENpIXrTEENoTENpHIRTEE",
   "NqREEpWELVEqOoZERObEASURED ANGLEo OPENING LEFTpWITH OPEN ARM ENDING IN ARROW POINTING DOWN AND",
   " LEFTzznRIGHTzzeLEFT AND DOWNzznUPzzeRIGHT AND DOWNzzoUPzzeUP AND LEFTzzlRIGHTjBYjRIGHT ANGLE ",
   "WITH DOTdT ON BONEcCHANICAL ARMlLEGcDEFAIDRIN CAPITAL LETTER AzdIzdTIUzcBzcCzcDzcEzcFzcGzcHzdP",
   "zcIzcJzcKzdPzcLzcMzcNzdGzdYzcOzdEzcPzcQzcRzcSzcTzcUzcVzcWzcXzcYzdUzcZnOMMAmDIGIT EIGHTsFIVEtOU",
   "RsNINEsONEv ALTERNATE FORMsSEVENtIXsTHREEx ALTERNATE FORMtWOv ALTERNATE FORMsZEROmEXCLAMATION ",
   "OHmFULL STOPmNUMBER EIGHTEENuLEVENtFIFTEENuOURTEENtNINETEENtSEVENTEENuIXTEENtTENuHIRTEENuWELVE",
   "mSMALL LETTER AzbIzbTIUzaBzaCzaDzaEzaFzaGzaHzbPzaIzaJzaKzbPzaLzaMzaNzbGzbYzaOzbEzaPzaQzaRzaSza",
   "TzaUzaVzaWzaXzaYzbUzaZnYMBOL AIVAdIEVAL COMMAjEXCLAMATION MARKjQUESTION MARKeUM BLACK CIRCLEiO",
   "LD WHITE CIRCLEhEIGHT POINTED BLACK STARnSPOKED ASTERISKhFIVE SPOKED ASTERISKiLATTENED LEFT PA",
   "RENTHESIS ORNAMENTrRIGHT PARENTHESIS ORNAMENTiOUR POINTED BLACK STARuPINWHEEL STARhGREEK CROSS",
   "hLEFT CURLY BRACKET ORNAMENTmPARENTHESIS ORNAMENTl-POINTING ANGLE BRACKET ORNAMENThMATHEMATICA",
   "L SPACEhRIGHT CURLY BRACKET ORNAMENTnPARENTHESIS ORNAMENTm-POINTING ANGLE BRACKET ORNAMENThSAL",
   "TIREiHADEiIX POINTED BLACK STARlSPOKED ASTERISKiMALL WHITE CIRCLEhTHREE POINTED BLACK STARvPIN",
   "WHEEL STARhVERTICAL BARhWHITE CIRCLEnSQUAREcETEI MAYEK AHANG KHUDAMoNJIoPUN IYEKnCHEIKHANtEInD",
   "IGIT EIGHTtFIVEuOURtNINEtONEtSEVENuIXtTHREEuWOtZEROnLETTER ATIYAuBAvHAMuCHAwILuDDAwHAvHOUvILuE",
   "uGHOUvOKuHUKuIv LONSUMuJHAMvILuKHOUvOKx LONSUMuLAIx LONSUMuMITx LONSUMuNAw LONSUMvGOUy LONSUMv",
   "NAvYAuOuPAw LONSUMvHAMuRAIuSAMvHAvSAuTHOUvILx LONSUMvTAwHAuUNuWAIuYANGoUM IYEKnSYLLABLE REPETI",
   "TION MARKnVIRAMAoOWEL SIGN AAIzbUzaNAPzaUyCHEINAPyIIzaNAPyNUNGyONAPySOUNAPyUNAPzaUyVISARGAyYEN",
   "APnWORD REPETITION MARKcLONdTING FACEcMOcNDE KIKAKUI COMBINING NUMBER HUNDRED THOUSANDSznSzgMI",
   "LLIONSzgTEENSziN THOUSANDSzjSzhHOUSANDSoDIGIT EIGHTuFIVEvOURuNINEuONEuSEVENvIXuTHREEvWOoSYLLAB",
   "LE M001 KIzb2 KAzb3 KUzb4 WIzb5 WAzb6 WUzb7 MINzb8 MANzb9 MUNza10 BIzb1 BAzb2 BUzb3 Izb4 Azb5 ",
   "Uzb6 DIzb7 DAzb8 DUzb9 SIza20 SAzb1 SUzb2 TIzb3 TAzb4 TUzb5 LIzb6 LAzb7 LUzb8 JIzb9 JAza30 JUz",
   "b1 YIzb2 YAzb3 YUzb4 FIzb5 FAzb6 FUzb7 NINzb8 NANzb9 NUNza40 HEEzb1 HAzb2 HOOzb3 NGGAzb4 KPEEz",
   "b5 WOzb6 HUANzb7 MBEEzb8 KOzb9 WVAza50 PUzb1 PEzb2 HENzb3 HINzb4 LOOzb5 TEzb6 GBAzb7 NGONzb8 N",
   "YANzb9 MENza60 NYONzb1 WVIzb2 MBAzb3 JOzb4 NDOzb5 KEEzb6 POzb7 NDOOzb8 PIzb9 TOza70 GBOzb1 GBO",
   "Ozb2 MBEzb3 LEzb4 KPUzb5 FEzb6 KOOzb7 VOzb8 FEEzb9 SOza80 YEzb1 PEEzb2 NGGUzb3 HEEIzb4 LEEzb5 ",
   "VEzb6 LONG NGGEzb7 HUNzb8 FOzb9 DEEza90 NGGIzb1 TEEzb2 KPAzb3 GBEEzb4 MONzb5 KEzb6 HEzb7 BEzb8",
   " NYENzb9 PAy100 Ezb1 FANzb2 POOzb3 BOOzb4 TOOzb5 LONG MBOOzb6 LONG NGGOOzb7 GBEzb8 KPEzb9 YEEz",
   "a10 LONG LEzb1 GAzb2 KPOOzb3 JEzb4 WOOzb5 NGGEEzb6 SEzb7 NENzb8 WEzb9 NDEza20 NGGOzb1 YOzb2 MB",
   "Uzb3 NDIzb4 GBIzb5 NDUzb6 WEEzb7 NGGUAzb8 HOOUzb9 NDAza30 HANzb1 INzb2 KPIzb3 FOOzb4 NJOOzb5 I",
   "Nzb6 SOOzb7 EIzb8 BOzb9 WVEza40 HOzb1 YOOzb2 LONG MBOzb3 WEIzb4 VOOzb5 MBIzb6 NGGEzb7 Ozb8 GBU",
   "zb9 NJEEza50 BEEzb1 VUzb2 NJAzb3 LOzb4 MUANzb5 GIzb6 NGGOOzb7 JEEzb8 KPOzb9 NGGAAza60 JOOzb1 L",
   "ONG MBEzb2 SEEzb3 EEzb4 NYINzb5 OOzb6 GUEIzb7 GUANzb8 GUzb9 NONza70 NYUNzb1 RAzb2 MBOOzb3 VEEz",
   "b4 MBOzb5 LONG JOzb6 HIzb7 NGUANzb8 ENzb9 KUAza80 DOOzb1 DOzb2 VIzb3 LONG NGGOzb4 NGENzb5 VAzb",
   "6 HUzb7 MBUUzb8 MBEEzb9 MUENza90 GEEzb1 NDEEzb2 NJUzb3 HONzb4 WUIzb5 ANzb6 SIAzb7 FUAdORAH WIT",
   "H NINE BRANCHESdS SYMBOLcRCURYdOITIC CURSIVE FRACTION EIGHT TWELFTHSzcLEVEN TWELFTHSzbFIVE TWE",
   "LFTHSzcOUR TWELFTHSzbNINE TWELFTHSzbONE HALFzfTWELFTHzbSEVEN TWELFTHSzcIX TWELFTHSzbTEN TWELFT",
   "HSzcHREE TWELFTHSzcWO TWELFTHSrLETTER AzaRCHAIC SAyBAyDAyEyHHAyIyKAzaHAyLAyMAyNAzaEyOyPAyQAyRA",
   "ySAzaEyTAzaEzaOyWAyYAsOGOGRAM IMNzbRMTrNUMBER EIGHTze HUNDREDzm THOUSANDzfTHOUSANDzeY THOUSAND",
   "yFIFTYze THOUSANDzbVEzd HUNDREDzl THOUSANDzeTHOUSANDzaORTYze THOUSANDzbURzd HUNDREDzl THOUSAND",
   "zeTHOUSANDyNINEzd HUNDREDzl THOUSANDzeTHOUSANDzdTY THOUSANDyONEzc HUNDREDzk THOUSANDzdTHOUSAND",
   "ySEVENze HUNDREDzm THOUSANDzfTHOUSANDzeTYzg THOUSANDzaIXzc HUNDREDzk THOUSANDzdTHOUSANDzcTYze ",
   "THOUSANDyTENzc THOUSANDzaHIRTYzf THOUSANDzbREEze HUNDREDzm THOUSANDzfTHOUSANDzaWENTYzf THOUSAN",
   "DzbOzc HUNDREDzk THOUSANDzdTHOUSANDjHIEROGLYPHIC LETTER AzeBAzg-2zeDAzeEzeHHAzeIzeKAzfHAzeLAze",
   "MAzeNAzg-2zfEzg-2zeOzePAzeQAzeRAzg-2zeSAzg-2zfEzeTAzg-2zfEzg-2zfOzeWAzeYAwSYMBOL VIDJzi-2dPERS",
   "ONcSSAGE WAITINGcTRICAL BREVEjLONG OVER SHORTtTWO SHORTSjPENTASEMEjSHORT OVER LONGjTETRASEMEkR",
   "ISEMEkWO SHORTS JOINEDuOVER LONGeObIAO LETTER AHnRCHAIC MAuNAvGAuZZAmBAnRImDAnDAnLHApYAnZAoHAo",
   "YIoZAmFAmGAnHAoHAmHAnHAmKAmLAnHAoYAnYAmMAnHAmNAoSALIZATIONnGAoHAnHAnNAoHAnYAoHAmPAnLAmQAnGAmRE",
   "FORMED TONE-1zb2zb4zb5zb6zb8wSHAnTEmSAnHAnSAnYImTAnEnLHApYAnONE-2r3r4r5r6r7r8nSAoEoHAoSAnTAmVA",
   "nFAmWAmXAmYI DZHApKApNNApPApTAqSArHAqTAmZAnHAnSAoHAnZAoSApYAoYAfSIGN ASPIRATIONkCONSONANT MODI",
   "FIER BARkREFORMED ASPIRATIONtVOICINGfTONE ABOVEkBELOWkRIGHTkTOP RIGHTfVOWEL SIGN ArArEsErHHrIr",
   "NsGrUqErArIrNsGrRsRqIrAsNtGrErGrIrNGrOsNGrUqNrGqOrERsYrGrOrUqROUNDED ERzbRqUrAsNtGrEIrIrNGrOGr",
   "UqVWqWrOqYrIrUIcCR DASH SYMBOLfON US SYMBOLeO SIGNfBEfPHONEfSCOPEcDDLE DOThTHIRD WHITE RIGHT P",
   "OINTING INDEXdLINE HORIZONTAL ELLIPSIScLITARY HELMETjMEDALdKY WAYdL SIGNcNIBUSeDISCeMIZEdUS SI",
   "GNk IN TRIANGLElWITH COMMA ABOVEqDOT BELOWqFALLING DOTSqRISING DOTSgTILDEf-OR-PLUS SIGNdYcRROR",
   "g BALLbMSPbOBILE PHONEm OFFnWITH RIGHTWARDS ARROW AT LEFTcDELSeRN PENTATHLONdI ABBREVIATION SI",
   "GNfDANDAgIGIT EIGHTlFIVEmOURlNINElONElSEVENmIXlTHREEmWOlZEROgOUBLE DANDAfLETTER AnAnInUmBAnHAm",
   "CAnHAmDAnDAoHAnHAmEmGAnHAmHAmInImJAnHAmKAnHAmLAnLAmMAmNAnGAnNAnYAmOmPAnHAmRAmSAnHAnSAmTAnHAnTA",
   "oHAmUnUmVAnOCALIC LvLuRvRmYAfSIGN ANUSVARAlRDHACANDRAkHUVAkVIRAMAmSARGAfVOWEL SIGN AArIrUqEqIr",
   "IqOqUrUqVOCALIC LzaLyRzaReFIER BREVE WITH INVERTED BREVEjLETTER ACUTE ACCENTrLVEOLAR CLICKrPOS",
   "TROPHEqBEGIN HIGH TONEwLOW TONErILABIAL CLICKqCAPITAL AzaEyBzaARRED ByCyDyEyFyGyHza WITH STROK",
   "EyIyJyKyLyMyNyOzaUyPyQyRzaEVERSED EziNyTyUyVyWrENTRED LEFT HALF RINGyRIGHT HALF RINGrHINESE TO",
   "NE YANG PINGzjQUzjRUzjSHANGzfIN PINGziQUziRUziSHANGrIRCUMFLEX ACCENTrOLONrROSS ACCENTrYRILLIC ",
   "ENzaHARD SIGNzaSOFT SIGNqDENTAL CLICKrOT HORIZONTAL BARuSLASHuVERTICAL BARsUBLE APOSTROPHExPRI",
   "MEsWN ARROWHEADvTACKqEND HIGH TONEuLOW TONErXTRA-HIGH DOTTED LEFT-STEM TONE BARzjTONE BARzcLEF",
   "T-STEM TONE BARzcTONE BARwLOW DOTTED LEFT-STEM TONE BARziTONE BARzbLEFT-STEM TONE BARzbTONE BA",
   "RqGEORGIAN NARrLOTTAL STOPzd WITH STROKErRAVE ACCENTqHALF TRIANGULAR COLONrIGH DOTTED LEFT-STE",
   "M TONE BARzdTONE BARvLEFT-STEM TONE BARvTONE BARqLATERAL CLICKrEFT ARROWHEADvHALF RINGvTACKrOW",
   " ACUTE ACCENTuCIRCUMFLEX ACCENTuDOTTED LEFT-STEM TONE BARzcTONE BARwWN ARROWHEADuGRAVE ACCENTu",
   "INVERTED EXCLAMATION MARKuLEFT ARROWzfHEADy-STEM TONE BARuMACRONuRIGHT ARROWHEADwNGuTILDEvONE ",
   "BARuUP ARROWHEADuVERTICAL LINEtER RIGHT CORNER ANGLEqMACRONrID DOTTED LEFT-STEM TONE BARzcTONE",
   " BARuLEFT-STEM TONE BARuTONE BARtDLE DOUBLE ACUTE ACCENTzfGRAVE ACCENTxGRAVE ACCENTsNUS SIGNqO",
   "PEN SHELFqPLUS SIGNrRIMEqRAISED COLONxDOWN ARROWxEXCLAMATION MARKxINVERTED EXCLAMATION MARKxUP",
   " ARROWrETROFLEX CLICK WITH RETROFLEX HOOKsVERSED COMMAzaGLOTTAL STOPzm WITH STROKErHOTIC HOOKr",
   "IGHT ARROWHEADwHALF RINGwTACKqSHELFsORT EQUALS SIGNrMALL AxExINxLPHAwBx WITH HOOKxARRED OxETAx",
   "OTTOM HALF OwCx WITH CURLxAPITAL AAzfBzfGzg WITH HOOKzfHzfIzg WITH STROKEzgNVERTED RzfLzg WITH",
   " BELTzfNzfOEzfRzfUzfYxHIxLOSED OMEGAzeREVERSED OPEN EwDx WITH HOOKzi AND TAILzeTAILxELTAyZH DI",
   "GRAPHxOTLESS J WITH STROKEzs AND HOOKxZ DIGRAPHzh WITH CURLznRETROFLEX HOOKwExNGxSHxTHxZHwFxEN",
   "G DIGRAPHwGx WITH HOOKxAMMAxREEK GAMMAzdPHIwHx WITH HOOKzeSTROKExENGzb WITH HOOKwI WITH STROKE",
   "xOTAwJx WITH CROSSED-TAILwKwLx WITH BELTzeINVERTED LAZY SzeMIDDLE TILDEzePALATAL HOOKzeRETROFL",
   "EX HOOKzs AND BELTxEZHzb WITH RETROFLEX HOOKxIGATURE OExS DIGRAPHxZ DIGRAPHwMx WITH HOOKwN WIT",
   "H LEFT HOOKzeRETROFLEX HOOKwOx WITH STROKExPEN EzcOwPxHIwQwRx WITH FISHHOOKzeTAILxAMS HORNxEVE",
   "RSED EzgGLOTTAL STOPzgOPEN EwSx WITH CURLzeHOOKxCHWAyRIPT GxIDEWAYS UwTx WITH PALATAL HOOKzeRE",
   "TROFLEX HOOKxC DIGRAPH WITH CURLxESH DIGRAPHxHETAxOP HALF OxS DIGRAPHzh WITH RETROFLEX HOOKxUR",
   "NED AzfEzfLPHAzeHzeIzeMzf WITH LONG LEGzeOPEN EzeRzf WITH HOOKzlLONG LEGzt AND RETROFLEX HOOKz",
   "eVzeWzeYzf WITH BELTwUx BARyWITH LEFT HOOKxPSILONwVx WITH HOOKzeRIGHT HOOKwWwXwYwZx WITH CURLz",
   "eRETROFLEX HOOKrTRESS AND HIGH TONEzcLOW TONErUPERSCRIPT HALF TRIANGULAR COLONzdTRIANGULAR COL",
   "ONqTRIANGULAR COLONrURNED COMMAqUNASPIRATEDrP ARROWHEADtTACKrSqVERTICAL LINErOICINGqYANG DEPAR",
   "TING TONE MARKrIN DEPARTING TONE MARKdULO TWO SUMcNEY BAGgWITH WINGSf-MOUTH FACEdGOLIAN BIRGAp",
   " WITH DOUBLE ORNAMENTvORNAMENTkCOLONmMMAkDIGIT EIGHTqFIVErOURqNINEqONEqSEVENrIXqTHREErWOqZEROl",
   "OUBLE BIRGA WITH ORNAMENTkELLIPSISkFOUR DOTSlREE VARIATION SELECTOR FOURzjONEzjTHREEzkWOlULL S",
   "TOPkINVERTED BIRGAy WITH DOUBLE ORNAMENTkLETTER AsLI GALI AzcHzcNUSVARA ONEzbBALUDAzbCAzbDAzdG",
   "ALGAzdMARUzcDAzbHALF UzgYAzbIzcNVERTED UBADAMAzbKAzbNGAzcNAzbPAzcHAzbSSAzbTAzcHREE BALUDAzcTAz",
   "dHAzbUBADAMAzbVISARGA ONEzbZAzcHAsNGrBArCHAu WITH TWO DOTStIrDArEsErFArGArHAArIrJArKAsHArLAsHA",
   "rMAtNCHU ALI GALI BHAziCAzjYAziDDHAzjHAziGHAziJHAziLHAziNGAziSSAziTAzjTAziZAzjHAyFAyIyKAyRAyZH",
   "ArNArOsErPArQArRArSAsHAsIBE ANGwCHAwDAwEwFAwGAyAwHAyAwIxYwJAwKAwPAwRAAwSHAwTAxSAwUxEwZAxHArTAs",
   "ODO ALI GALI TAzgZHAxNGwBAwCHAwDAxZAwEwGAyAwHAAwIwJAxIAwKAwLONG VOWEL SIGNwMAwNIAwOxEwPAwQAwTA",
   "xSAwUxEwWAwYAsSArUsErWArYArZAsHIsRAkMANCHU COMMArFULL STOPkNIRUGUkROTATED BIRGAx WITH DOUBLE O",
   "RNAMENTzeORNAMENTkSIBE SYLLABLE BOUNDARY MARKERlWIRL BIRGAv WITH DOUBLE ORNAMENTzcORNAMENTkTOD",
   "O SOFT HYPHENlRIPLE BIRGA WITH ORNAMENTlURNED SWIRL BIRGA WITH DOUBLE ORNAMENTkVOWEL SEPARATOR",
   "dKEYg FACEdOGRAM FOR EARTHnYANGoINeRAILeSTABLE SYMBOLcOD BUBBLEdN CAKEfVIEWING CEREMONYcSQUEfI",
   "TOcTHER CHRISTMASdOR BOATgSCOOTERfIZED WHEELCHAIRfWAYcUNT FUJIfAINi BICYCLISTjCABLEWAYjRAILWAY",
   "dSEf FACEgTRAPdTHcVIE CAMERAcYAIbRO DANDAfIGIT EIGHTkFIVElOURkNINEkONEkSEVENlIXkTHREElWOkZEROf",
   "OUBLE DANDAeLETTER AlBAlCHUlDAnIlEmAlHAInOlKEAAEmHAImOlLAnNlMAEMmIMlNGImINlOmLmOlPAmHIlRImOlSH",
   "IlTAmEKmHEAlWAlYObUCH GREATER-THANfLESS-THANcLTANI LETTER ApBAqHApCAqHApDAqDArDArHAqHApEpGAqHA",
   "pHApIpJAqJApKAqHApLApMApNAqNAqYApPAqHApRAqHAqRApSApTAqHAqTArHApUpVApYAiSECTION MARKeIMAPfPLE M",
   "USICAL NOTEShICATION SIGNt IN DOUBLE CIRCLExLEFT HALF CIRCLExRIGHT HALF CIRCLExTRIANGLEuWITH D",
   "OT ABOVEzaUNDERBARpXfSETi MULTIPLICATIONjUNIONcSHROOMdIC FLAT SIGNgNATURAL SIGNgSHARP SIGNfAL ",
   "KEYBOARDq WITH JACKSiNOTEiSCOREjYMBOL ARPEGGIATO DOWNzbUPpBEGIN BEAMvPHRASEvSLURvTIEqRACEtKETr",
   "EATH MARKsVEtISv RESTpC CLEFqAESURAqIRCLE X NOTEHEADqLIMACUSsVISrUSTER NOTEHEAD BLACKzhWHITEqO",
   "DArMBINING ACCENTzg-STACCATOzbUGMENTATION DOTzaBENDzaDOITzcUBLE TONGUEzcWN BOWzaFLAG-1zf2zf3zf",
   "4zf5zcIPzaHARMONICzaLOUREzaMARCATOzh-STACCATOzaRIPzaSMEARzbNAP PIZZICATOzbPRECHGESANG STEMzbTA",
   "CCATISSIMOzhOzcEMzaTENUTOzbREMOLO-1zi2zi3zcIPLE TONGUEzaUP BOWsMON TIMEqRESCENDOrOIXqUT TIMEpD",
   "A CAPOrL SEGNOrMPt ALLrSHED BARLINEqECRESCENDOrGREE SLASHqOUBLE BARLINEwFLATwSHARPqRUM CLEF-1z",
   "a2pEIGHTH NOTEwRESTqND BEAMtOF STIMMEtPHRASEtSLURtTIEpF CLEFv OTTAVA ALTAzeBASSAqERMATAw BELOW",
   "qINAL BARLINEsGERED TREMOLO-1zh2zh3rVE-LINE STAFFqLAT DOWNuUPqORTErUR-LINE STAFFuSTRING FRETBO",
   "ARDqUSA BLACKuWHITEpG CLEFv OTTAVA ALTAzeBASSAqLISSANDO DOWNzaUPqRACE NOTE NO SLASHzbSLASHrEGO",
   "RIAN C CLEFzaF CLEFpHALF NOTEuPEDAL MARKuRESTrUPTSTIMMEpINVERTED TURNpKIEVAN C CLEFwEIGHTH NOT",
   "E STEM DOWNzoUPxND OF PIECEwFINAL NOTExLAT SIGNwHALF NOTEwQUARTER NOTE STEM DOWNzpUPwRECITATIV",
   "E MARKwWHOLE NOTEqORONpLEFT REPEAT SIGNqONGAu IMPERFECTA RESTvPERFECTA RESTpMAXIMAqEZZOqINIMAv",
   " BLACKwRESTqOON NOTEHEAD BLACKzeWHITEqULTI RESTuPLE MEASURE RESTpNATURAL DOWNxUPqEBENSTIMMEqOT",
   "EHEAD BLACKqULL NOTEHEADpONE HUNDRED TWENTY-EIGHTH NOTEzqRESTs-LINE STAFFqRNAMENT STROKE-1zh0z",
   "h1zg2zg3zg4zg5zg6zg7zg8zg9qTTAVA ALTAwBASSApPARENTHESIS NOTEHEADqEDAL MARKvUP MARKrS SUBPUNCTI",
   "SqIANOqLUS NOTEHEADqODATUSrRRECTUSy FLEXUSpQUARTER NOTExRESTxTONE FLATzdSHARPrINDICESIMA ALTAz",
   "dBASSApREPEAT DOTSvED FIGURE-1zg2zg3rVERSE FINAL BARLINEqIGHT REPEAT SIGNrNFORZANDOpSCANDICUSy",
   " FLEXUSqEGNOrMIBREVIS BLACKzbRESTzbWHITEtMINIMA BLACKzbRESTzbWHITEqHARP DOWNvUPrORT BARLINEqIN",
   "GLE BARLINErX-LINE STAFFtSTRING FRETBOARDsTEENTH NOTEzaRESTtY-FOURTH NOTEzdRESTqORIqQUARE BwNO",
   "TEHEAD BLACKzgWHITEqUBITOpTEMPUS IMPERFECTUM CUM PROLATIONE IMPERFECTAzzj DIMINUTION-1zzv2zzv3",
   "zyPERFECTAwPERFECTUM CUM PROLATIONE IMPERFECTAzwPERFECTAzzf DIMINUTION-1qHIRTY-SECOND NOTEzeRE",
   "STrREE-LINE STAFFqORCULUSx RESUPINUSqRrIANGLE NOTEHEAD DOWN BLACKznWHITEziLEFT BLACKznWHITEziR",
   "IGHT BLACKzoWHITEziUP BLACKzlRIGHT BLACKzrWHITEzlWHITEx-ROUND NOTEHEAD DOWN BLACKztWHITEqURNt ",
   "SLASHuUPqWO-LINE STAFFpVIRGAqOID NOTEHEADpWHOLE NOTEvRESTqITH FINGERNAILSpX NOTEHEADpZbVSbWbYA",
   "NMAR CONSONANT SIGN MEDIAL HAzfRAzfWAzfYAyON MEDIAL LAzjMAzjNAxSHAN MEDIAL WAiDIGIT EIGHToFIVE",
   "pOURoNINEoONEoSEVENpIXoTHREEpWOoZEROiLETTER AqITON RAqUpBAqHApCAqHApDAqDArHAqHApEqASTERN PWO K",
   "AREN GHWAziNNAziYWApGAqHAqREAT SApHApIqIpJAqHApKAqHAsMTI CAxHAwDDAyHAxHAwFAwGAwHAxHAwJAxHAwLLA",
   "wNAxYAwRAwSAwTTAyHAwXAwZApLAqLApMAqON BBAvEtEtJHAtNGApNAqGAqNArYAqYApOpPAqHApRAqUMAI PALAUNG F",
   "ApSAqGAW KAREN SHAqHAsN AuBAvHAuCAvHAuDAuFAuGAvHAuHAuJHAuKAvHAuNAvNAvYAuPHAuTHAuZArWE PALAUNG ",
   "CHAzdSHAqSApTArI LAING BAzbHAzaDAzbDAzcHAzbHAzaFAzaGAzbHAzaJAzbHAzaLLAzaNNAzbYAqHAqTArHApUqUpV",
   "OCALIC LyLxRyRpWAqESTERN PWO KAREN PWAziTHApYAjOGOGRAM KHAMTI HMyOAYyQNiMODIFIER LETTER KHAMTI",
   " REDUPLICATIONySHAN REDUPLICATIONiSHAN DIGIT EIGHTtFIVEuOURtNINEtONEtSEVENuIXtTHREEuWOtZEROjIG",
   "N ANUSVARAoSATnDOT BELOWnKHAMTI TONE-1za3nLITTLE SECTIONnPAO KAREN TONEnRUMAI PALAUNG TONE-5nS",
   "ECTIONoHAN COUNCIL EMPHATIC TONEzbTONE-2zg3sSAWsTONE-2x3x5x6nTAI LAING TONE-2zd5nVIRAMApSARGAn",
   "WESTERN PWO KAREN TONE-1zl2zl3zl4zl5jYMBOL AFOREMENTIONEDqITON EXCLAMATIONvONEvTWOpCOMPLETEDpG",
   "ENITIVEpLOCATIVEpSHAN EXCLAMATIONuONEiTAI LAING DIGIT EIGHTyFIVEzaOURyNINEyONEySEVENzaIXyTHREE",
   "zaWOyZEROjONE MARK SGAW KAREN HATHIzeKE PHOiVOWEL SIGN AAuIvTON AzbItEu ABOVEtGEBA KAREN ItIuI",
   "tKAYAH EEzaOEzaUtMON IIxOtSGAW KAREN EUuHAN AAyEza ABOVEyFINAL YtTALL AAtUuUtVOCALIC LzdLzcRzd",
   "RtWESTERN PWO KAREN EUzmUEaN-ARY CIRCLED DOT OPERATORoPLUS OPERATORoTIMES OPERATORhOPRODUCTgIN",
   "TERSECTIONgLOGICAL ANDoORgPRODUCTgSQUARE INTERSECTION OPERATORnUNION OPERATORhUMMATIONgTIMES O",
   "PERATORgUNIONl OPERATOR WITH DOTzbPLUSgWHITE VERTICAL BARbABATAEAN CRUCIFORM NUMBER FOURkLETTE",
   "R ALEPHsYINrBETHrDALETHrFINAL ALEPHxBETHxHExKAPHxLAMEDHxMEMxNUNxSHINxYODHrGIMELrHEtTHrKAPHrLAM",
   "EDHrMEMrNUNrPErQOPHrRESHrSADHEtMEKHsHINrTAWsETHrWAWrYODHrZAYINkNUMBER FIVEsOURrONEu HUNDREDrTE",
   "NsHREEsWENTYtOdLAcIL POLISHdRA SIGNcKcME BADGEcNDeINAGARI HEADSTROKEmLETTER AuAuIuUtBAuHAtCAuH",
   "AtDAuDAvHAuHAtEtGAuHAtHAtIuItJAuHAtKAuHAtLAuLAtMAtNAuGAuNAuYAtOtPAuHAtRAuRAtSAuHAuSAtTAuHAuTAv",
   "HAtUuUtVAuOCALIC RzdRtYAmSIGN ANUSVARAsVAGRAHArSIDDHAMrVIRAMAtSARGAmVOWEL SIGN AAyIyUxExIyIxOx",
   "PRISHTHAMATRA ExUyUxVOCALIC RzhRcRROW NO-BREAK SPACEcTIONAL DIGIT SHAPESjPARKcUSEATED FACEcZAR",
   " AMULETbBHcSPbECKTIEcGATED DOUBLE VERTICAL BAR DOUBLE RIGHT TURNSTILEfIVE ACKNOWLEDGEjCIRCLED ",
   "DIGIT ZEROrLATIN CAPITAL LETTER AznBznCznDznEznFznGznHznIznJznKznLznMznNznOznPznQznRznSznTznUz",
   "nVznWznXznYznZrNUMBER EIGHTEENzaLEVENyFIFTEENzaOURTEENyNINETEENySEVENTEENzaIXTEENyTHIRTEENzaWE",
   "LVEzcNTYrSQUARErTRIANGLEjDIAGONAL CROSSsDIAMONDsMIDDLE RIGHT TO LOWER CENTREjSQUARED ABrCROSS ",
   "MARKrICrLATIN CAPITAL LETTER AznBznCznDznEznFznGznHznIznJznKznLznMznNznOznPznQznRznSznTznUznVz",
   "nWznXznYznZrPArQUESTION MARKrSArWCcITHER A SUBSET OF NOR EQUAL TOmPERSET OF NOR EQUAL TOjPPROX",
   "IMATELY NOR ACTUALLY EQUAL TOiGREATER-THAN NOR EQUAL TOzdIVALENT TOzaLESS-THANiLESS-THAN NOR E",
   "QUAL TOzaIVALENT TOwGREATER-THANcLcPTUNEh FORM TWOcRD FACEcSSUSdT WITH EGGSeING DOLLScUTEReRAL",
   " CHESS BISHOPu ROTATED NINETY DEGREESzeTWO HUNDRED SEVENTY DEGREESoEQUIHOPPERy ROTATED NINETY ",
   "DEGREESoKINGs ROTATED NINETY DEGREESzcTWO HUNDRED SEVENTY DEGREESpNIGHTu ROTATED FORTY-FIVE DE",
   "GREESzeNINETY DEGREESzeONE HUNDRED THIRTY-FIVE DEGREESzeTHREE HUNDRED FIFTEEN DEGREESzfWO HUND",
   "RED SEVENTY DEGREESzqTWENTY-FIVE DEGREESoPAWNs ROTATED NINETY DEGREESzcTWO HUNDRED SEVENTY DEG",
   "REESoQUEENt ROTATED NINETY DEGREESzdTWO HUNDRED SEVENTY DEGREESoROOKs ROTATED NINETY DEGREESzc",
   "TWO HUNDRED SEVENTY DEGREESoTURNED BISHOPvKINGwNIGHTvPAWNvQUEENvROOKiFACEcW LINEeMOON SYMBOLjW",
   "ITH FACEeSHEQEL SIGNeTAI LUE DIGIT EIGHTsFIVEtOURsNINEsONEsSEVENtIXsTHREEtWOsZEROmLETTER FINAL",
   " BzaDzaKzaMzaNzbGzaVtHIGH BAyDAyFAyHAyKAzaVAyLAyMAyNAzaGAyPAzaHAyQAySAzaUAyTAzaHAzaSAyVAyXAzaV",
   "AyYAtLOW BAxDAxFAxHAxKAyVAxLAxMAxNAyGAxPAyHAxQAxSAyUAxTAyHAySAxVAxXAyVAxYAmSIGN LAEuVmTHAM DIG",
   "IT ONEnONE MARK-1w2mVOWEL SIGN AAzaYyEyYxExIIyYxOyAzaYyYxUyEzaYyUyYxVOWEL SHORTENERdA ABBREVIA",
   "TION SIGNfCOMMAfDANDAgIGIT EIGHTlFIVEmOURlNINElONElSEVENmIXlTHREEmWOlZEROgOUBLE COMMAmDANDAfGA",
   "P FILLERfINSERTION SIGNfLETTER AnAnInUmBAnHAmCAnHAmDAnDAoHAnHAmEmGAnHAmHAmInImJAnHAmKAnHAmLAnH",
   "AmMAnHAmNAnGAoHAnHAnNAnYAoHAmOmPAnHAmRAnHAmSAnHAnSAmTAnHAnTAoHAmUnUmVEDIC ANUSVARAnOCALIC LvLu",
   "RvRmWAmYAfOMfPLACEHOLDER MARKfSANDHI MARKgIDDHIhGN ANUSVARAlVAGRAHAkCANDRABINDUkFINAL ANUSVARA",
   "kJIHVAMULIYAkNUKTAkUPADHMANIYAkVIRAMAmSARGAfVOWEL SIGN AArIrUqEqIrIqOqUrUqVOCALIC LzaLyRzaRdLI",
   "NE LEFTiRIGHTdSPAPERcXT LINEfPAGEbIGHT WITH STARScNJAbKO COMBINING DOUBLE DOT ABOVEoLONG DESCE",
   "NDING TONEtHIGH TONEtLOW TONEtRISING TONEoNASALIZATION MARKoSHORT HIGH TONEuLOW TONEuRISING TO",
   "NEhMAeDANTAYALANfIGIT EIGHTkFIVElOURkNINEkONEkSEVENlIXkTHREElWOkZEROfOROME SIGNeEXCLAMATION MA",
   "RKeHIGH TONE APOSTROPHEeLAJANYALANfETTER AlBAlCHAlDAnGBASINNAlEmElFAlGBAlHAlIlJAmONA CHAqJAqRA",
   "lKAlLAlMAlNmAn WOLOSOmYAo WOLOSOlOmOlPAlRAmRAlSAlTAlUlWAlYAfOW TONE APOSTROPHEeSYMBOL GBAKURUN",
   "ENlOO DENNENeTAMAN SIGNbLbNBSPbO BICYCLESeREAK HEREdENTRYi SIGNdMOBILE PHONESdONE UNDER EIGHTE",
   "EN SYMBOLdPEDESTRIANSeIRACYdSMOKING SYMBOLc-BREAK SPACEcMINAL DIGIT SHAPESeSMA SIGNcN-BREAKING",
   " HYPHENePOTABLE WATER SYMBOLdFORKINGcRdDIC MARK SIGNdMAL SUBGROUP OFs OR EQUAL TOdTH EAST AND ",
   "SOUTH WEST ARROWmRROWq AND SOUTH EAST ARROWrCROSSING NORTH WEST ARROWzbSOUTH EAST ARROWrWITH H",
   "OOKlBLACK ARROWlDOUBLE ARROWlPOINTING BUDuLEAFuVINE LEAFlSANS-SERIF ARROWlTRIANGLE-HEADED ARRO",
   "Wzh TO BARlWHITE ARROWgINDIC FRACTION ONE EIGHTHzaHALFzaQUARTERzaSIXTEENTHvTHREE QUARTERSzcSIX",
   "TEENTHSmPLACEHOLDER MARKmQUANTITY MARKpRTER MARKmRUPEE MARKgWEST AND SOUTH EAST ARROWmRROWq AN",
   "D NORTH EAST ARROWrCROSSING NORTH EAST ARROWrTO CORNERuLONG BARrWITH HOOKlBLACK ARROWlDOUBLE A",
   "RROWlPOINTING BUDuLEAFuVINE LEAFlSANS-SERIF ARROWlTRIANGLE-HEADED ARROWzh TO BARlWHITE ARROWfE",
   "AST-POINTING AIRPLANEcSEcT A SUBSET OFiPERSET OFfLMOST EQUAL TOfN ELEMENT OFfSYMPTOTICALLY EQU",
   "AL TOeCHECK MARKeEQUAL TOhIVALENT TOeGREATER-THANeIDENTICAL TOeLESS-THANeNORMAL SUBGROUP OFw O",
   "R EQUAL TOePARALLEL TOeSIGNfQUARE IMAGE OF OR EQUAL TOlORIGINAL OF OR EQUAL TOeTILDEfRUEdCHED ",
   "LEFT SEMICIRCLE WITH THREE DOTSjOWER RIGHT-SHADOWED WHITE RIGHTWARDS ARROWiRIGHT SEMICIRCLE WI",
   "TH THREE DOTSiUPPER RIGHT-SHADOWED WHITE RIGHTWARDS ARROWdEe PADhGEeBOOKi WITH DECORATIVE COVE",
   "RbULdLcMBER EIGHTEEN FULL STOPiLEVEN FULL STOPhFIFTEEN FULL STOPiOURTEEN FULL STOPhNINETEEN FU",
   "LL STOPhSEVENTEEN FULL STOPiIGNjXTEEN FULL STOPhTEN FULL STOPiHIRTEEN FULL STOPiWELVE FULL STO",
   "PkNTY FULL STOPdERO SIGNcSHU ITERATION MARKcT AND BOLTbYIAKENG PUACHUE HMONG CIRCLED CAxDIGIT ",
   "EIGHTzeFIVEzfOURzeNINEzeONEzeSEVENzfIXzeTHREEzfWOzeZEROxLETTER AzgAzfCAzfDAzgLAzfEzgEzfFAzfGAz",
   "fHAzhHzfIzfKAzfLAzfMAzgLAzfNAzgCAzgKAzgPAzhLAzgQAzgRAzgTAzhSAzhXAzgYAzfOzgOzfPAzgLAzfQAzfRAzgR",
   "AzfSAzfTAzgSAzgXAzfUzfVAzfWzfXAzgYAzfYAzfZAyOGOGRAM NYAJxSIGN FOR ANIMALzhINVERTEBRATEzhLOCATI",
   "ONzhPERSONzhTHINGzdXW XWyYLLABLE LENGTHENERxTONE-BzdDzdGzdJzdMzdSzdVaOBJECT REPLACEMENT CHARAC",
   "TERcLIQUE ANGLE OPENING DOWNwUPiHYPHENcSERVER EYE SYMBOLbCR AMOUNT OF CHECKeBELT BUCKLEfOW TIE",
   "fRANCH BANK IDENTIFICATIONeCHAIRfUSTOMER ACCOUNT NUMBEReDASHfOUBLE BACKSLASHeFORKeHOOKeINVERTE",
   "D FORKcTAGONAL SIGNdOPUSbDENbFFICE BUILDINGbGHAM FEATHER MARKgLETTER AILMnBEITHnCEIRToOLLnDAIR",
   "nEABHADHpDHADHpMHANCHOLLnFEARNnGORTnIFINoODHADHnLUISnMUINnNGEADALoIONnONNoRnPEITHnRUISnSAILoTR",
   "AIFnTINNEnUATHoILLEANNoRgREVERSED FEATHER MARKgSPACE MARKcONEKbHM SIGNbIL DRUMbK HAND SIGNbL C",
   "HIKI AHADjDIGIT EIGHTpFIVEqOURpNINEpONEpSEVENqIXpTHREEqWOpZEROjGAAHLAA TTUDDAAGjLETTER AAJsKsM",
   "sWrGrLrNGrTqEDDrNrPrRRqIHrNYrRrSqLAsArErIrOrUqOBrHrTTrVqUCrDrNNrYjMU TTUDDAGl-GAAHLAA TTUDDAAG",
   "jPHAARKAAkUNCTUATION DOUBLE MUCAADvMUCAADjRELAAcD CHINESE HOOK MARKmITERATION MARKeHUNGARIAN C",
   "APITAL LETTER AzfAzfKzfMBzfNDzeCLOSE EzeEzfBzfCzgHzgSzfDzfEzfFzfGzgYzfHzfJzfKzfLzgYzfMzgPzfNzg",
   "CzgTzh-SHAPED SIGNzgYzfPzfRzfSzgZzfTzgYzfVzfZzgSzeIzfIzeNIKOLSBURG OEzpUEzeOzfEEzfOzeRUDIMENTA",
   " OEzoUEzeSHORT ERzeUzfNKzfSzfUoNUMBER FIFTYxVEvONEy HUNDREDzaTHOUSANDvTENoSMALL LETTER AzdAzdK",
   "zdMBzdNDzcCLOSE EzcEzdBzdCzeHzeSzdDzdEzdFzdGzeYzdHzdJzdKzdLzeYzdMzePzdNzeCzeTzf-SHAPED SIGNzeY",
   "zdPzdRzdSzeZzdTzeYzdVzdZzeSzcIzdIzcNIKOLSBURG OEznUEzcOzdEEzdOzcRUDIMENTA OEzmUEzcSHORT ERzcUz",
   "dNKzdSzdUeITALIC LETTER AsBEsCHEsDEsEtFtKStLtMtNtRuStSuHuSsHEsItIsKAtEtHEtUsNORTHERN TSEsOsPEt",
   "HEsSHEtOUTHERN TSEsTEtHEsUtUsVEsYEsZElNUMERAL FIFTYvVEtONEtTENeKEYeNORTH ARABIAN LETTER AINzbL",
   "EFzaBEHzaDADzcLzaES-1zd2zd3zaFEHzaGEEMzbHAINzaHAHzbEHzaKAFzbHAHzaLAMzaMEEMzaNOONzaQAFzaREHzaSA",
   "DzaTAHzbEHzbHALzcEHzaWAWzaYEHzaZAHzcINsNUMBER ONEzaTENzbWENTYePERMIC LETTER ANsBURsCHERYsDOItZ",
   "HOIuITAsEtFsGAIsHAsItAtEsKOKEsLEIsMENOEsNENOEsOtOsPEEIsREIsSHCHOOIuOOItIIsTAItSIUsUsVERtOOIsYA",
   "uTtERvIvUtRYtUsZATAtHOIhSIAN NUMBER HUNDREDtONEtTENuWENTYvOmSIGN AsURAMAZDAAzc-2zcHArBAtGAsUUM",
   "ISHrCArDAtHYAAUSHzb-2sIsUrFArGAsUrHArIrJAsIrKAsUrLArMAsIsUrNAsUrPArRAsUrSAsHAsSArTAsHAsUrUrVAs",
   "IrXAsSHAAYATHIYArYArZAmWORD DIVIDERiONAL COMPUTEReSOGDIAN FRACTION ONE HALFmLETTER ALEPHvTERNA",
   "TE AYINuYINtBETHtFINAL ALEPHzaBETHzaHEzaNUNzd WITH VERTICAL TAILzaSADHEzf WITH VERTICAL TAILza",
   "TAWzd WITH VERTICAL TAILtGIMELtHEvTHtKAPHtLAMEDHtMEMtNUNtPEtRESH-AYIN-DALETHtSADHEvMEKHuHINtTA",
   "WtWAWtYODHtZAYINnIGATURE AYIN-DALETHmNUMBER FIVEuOURtONEw HUNDREDtTENuHIRTYvREEuWENTYvOgUTH AR",
   "ABIAN LETTER ALEFzbYNzaBETHzaDALETHzbHADHEzdLETHzaFEzaGHAYNzbIMELzaHEzcTHzaKAPHzbHETHzaLAMEDHz",
   "aMEMzaNUNzaQOPHzaRESHzaSADHEzcMEKHzcTzbHINzaTAWzbETHzbHAWzcETHzaWAWzaYODHzaZAYNsNUMBER FIFTYza",
   "ONEvERIC INDICATOReTURKIC LETTER ORKHON AzbBzbDzbEBzcDzcGzcKzcLzcNzcRzcSzcTzcYzbGzbLzbNzbQzbRz",
   "bSzcHzbTzbYzaBASHzaECzbLTzbMzbNCzcGzcTzcYzbPzbSHzbZzaIzbCzbQzaOzbEzcKzbPzbQzbTsYENISEI AzcBzcD",
   "zcEzdBzdGzdKzdNzeGzdTzdYzcGzcLzcNGzcQzcRzcSHzcTzcYzbEzcCzcNCzdTzdYzcSHzcZzbIzcQzbOEzdKzcQeUYGH",
   "UR COMBINING DOT ABOVEzaBELOWvTWO DOTS ABOVEzfBELOWlLETTER ALEPHsBETHsFINAL HETHsGIMEL-HETHsKA",
   "PHsLAMEDHtESHsMEMsNUNsPEsRESHsSADHEuMEKHtHINsTAWsWAWsYODHsZAYINlPUNCTUATION BARxFOUR DOTSxTWO ",
   "BARSzcDOTSdER ADULTgMANgWOMANcIVEbM SYMBOLbN WITH EXCLAMATION MARK WITH LEFT RIGHT ARROW ABOVE",
   "cCOMING AUTOMOBILEjBUSjFIRE ENGINEjPOLICE CARjTAXIcE BUTTON MOUSEeDOT LEADERiOVER TWO DOTS PUN",
   "CTUATIONd-PIECE SWIMSUITcIONbPEN BOOKhXfCENTRE ASTERISKmBLACK STARmCROSSmTEARDROP-SPOKED ASTER",
   "ISKfFILE FOLDERgOLDERfHANDS SIGNfLOCKfMAILBOX WITH LOWERED FLAGsRAISED FLAGfSUBSEThPERSETe-CIR",
   "CUIT-OUTPUT H-TYPE SYMBOLuL-TYPE SYMBOLfOUTLINED RIGHTWARDS ARROWdRATING SYSTEM COMMANDcHIUCHU",
   "ScPOSITIONcTICAL DISCm ICONeON KEYbR WITH DOT INSIDEcANGE BOOKhHEARTfUTANcIGINAL OFdYA AI LENG",
   "TH MARKhU LENGTH MARKgDIGIT EIGHTmFIVEnOURmNINEmONEmSEVENnIXmTHREEnWOmZEROgFRACTION ONE EIGHTH",
   "tHALFtQUARTERtSIXTEENTHpTHREE QUARTERSvSIXTEENTHSgISSHARgLETTER AoAoIoUnBAoHAnCAoHAnDAoDApHAoH",
   "AnEnGAoHAnHAnIoInJAoHAnKAoHAnLAoLAnMAnNAoGAoNAoYAnOnPAoHAnRAoHAoRAnSAoHAoSAnTAoHAoTApHAnUoUnVA",
   "oOCALIC LwLvRwRnWAnYAoYAgSIGN ANUSVARAmVAGRAHAlCANDRABINDUlNUKTAlOVERLINElVIRAMAnSARGAgVOWEL S",
   "IGN AAsIsUrErIsIrOrUsUrVOCALIC LzbLzaRzbRcNATE LEFT PARENTHESIShRIGHT PARENTHESIScTHODOX CROSS",
   "bSAGE CAPITAL LETTER AwHwIxNvBRAvCHAvDHAvEwHCHAxKAxPAxTAySAwINvGHAvHAwYAvIvKAwHAwYAvLAvMAvNAvO",
   "wINvPAvSAwHAvTAwSAxHAvUvWAvZAwHAgSMALL LETTER AuHuIvNtBRAtCHAtDHAtEuHCHAvKAvPAvTAwSAuINtGHAtHA",
   "uYAtItKAuHAuYAtLAtMAtNAtOuINtPAtSAuHAtTAuSAvHAtUtWAtZAuHAcCcMANYA DIGIT EIGHToFIVEpOURoNINEoON",
   "EoSEVENpIXoTHREEpWOoZEROiLETTER AqAqLEFpBApCAYNpDEELqHApEqEpFApGApHApIpJApKAAFqHApLAANpMIINpNU",
   "UNpOqOpQAAFpRApSAqHIINpTApUpWAWpXApYAbTTERdOMAN SIYAQ ALTERNATE NUMBER EIGHTzgFIVEzhOURzk HUND",
   "REDzgNINEzgSEVENzhIXzj HUNDREDzgTENzj THOUSANDzhHREEzhWOzj THOUSANDoFRACTION ONE HALFzcSIXTHoM",
   "ARRATANoNUMBER EIGHTzb HUNDREDzcTHOUSANDzbYzc THOUSANDvFIFTYzb THOUSANDxVEza HUNDREDzbTHOUSAND",
   "wORTYzb THOUSANDxURza HUNDREDzbTHOUSANDvNINEza HUNDREDzbTHOUSANDzaTYzc THOUSANDvONEy HUNDREDza",
   "THOUSANDvSEVENzb HUNDREDzcTHOUSANDzbTYzd THOUSANDwIXy HUNDREDzaTHOUSANDyTYzb THOUSANDvTENy THO",
   "USANDwHIRTYzc THOUSANDxREEzb HUNDREDzcTHOUSANDwWENTYzc THOUSANDxOy HUNDREDzaTHOUSANDbUNCE SIGN",
   "cTBOX TRAYdLINED BLACK STARjGREEK CROSSjLATIN CROSSjWHITE STARbVERHEATED FACEeLAPhPING BLACK S",
   "QUARESmWHITE AND BLACK SQUARESsSQUARESfINEbWLbXbYSTERaPACKAGEcDdDING CHARACTERcGEe FACING UPfW",
   "ITH CIRCLED TEXTlURLeReSdODAcHAWH HMONG CLAN SIGN FAJxHAMzaWJxKHAByOOyWMxLAUJyISxMUASxPHABxTHO",
   "JySABzaHEEJzaWBxVAJyWJxXYOOJxYAJyEEGoONSONANT AUxCAUyHAUxHAUyLAUyNAUxLAUxMAUxNAUyCHAUyKAUyLAUy",
   "THAUzaSAUxPLHAUxQHAUxRAUxVAUxXAUxYAUnDIGIT EIGHTtFIVEuOURtNINEtONEtSEVENuIXtTHREEuWOtZEROnMARK",
   " CIM HOMwKESxHAVwSOxUAMwTAUMxUBnNUMBER HUNDRED MILLIONSzcSuMILLIONSuTEN BILLIONSyTHOUSANDSxSvR",
   "ILLIONSnSIGN AVsCIM CHEEMxUAM TSHOOJwHAIS LUS NTOG NTOGwNRES TOSwPUB DAWBwTSOV ROGxXWVzb CHWVs",
   "HLItNUBsIB YAMsLOSsMEEJ SUABxTSEEBtUSsNQIGtTUJsTAUtHIRD-STAGE HLItXHEEJ CEEVsVOS FEEMwLUBwNRUA",
   "wSEEVwTHIAByOMxSHAB CEEBsXAUStIABtYEEM FAIByNTXIVyRHOyTOVuOOsZWJ THAJnVOWEL KAABwVvBvIBwVvUBwV",
   "vVvWBwVuEBvEBwVvVuIABwVvBvVuOBvOBwVvVuUABwVvBvVuWBvVcLLASdM BRANCHfDOWN HANDfTREEfUP HANDeS UP",
   " TOGETHEReYRENE LEFT-POINTING FLEURONmTTER ALEPHsYINrBETHrDALETHrFINAL NUNrGIMELrHEtTHrKAPHrLA",
   "MEDHrMEMrNUNrPErQOPHrRESHrSADHEtMEKHsHINrTAWsETHrWAWrYODHrZAYINkNUMBER FIVEsOURrONErTENsHREEsW",
   "ENTYtOkRIGHT-POINTING FLEURONcNCAKESdDA FACEcPERCLIPcRACHUTEeGRAPH SEPARATORjOSjUS MARKeLLEL T",
   "OjWITH HORIZONTAL STROKEoTILDE OPERATORdENTHESIZED DIGIT EIGHTuFIVEvOURuNINEuONEuSEVENvIXuTHRE",
   "EvWOoHANGUL CHIEUCHzd AwIEUCzb AzcUvHIEUHzb AvIEUNGzb AvKHIEUKHzd AwIYEOKzc AvMIEUMzb AvNIEUNz",
   "b AvPHIEUPHzd AwIEUPzb AvRIEULzb AvSIOSza AvTHIEUTHzd AwIKEUTzc AoIDEOGRAPH ALLIANCEyCALLzaONG",
   "RATULATIONyEARTHzaIGHTzaNTERPRISEyFESTIVALzaINANCIALzbREzbVEzaOURyHAVEyLABORyMETALzaOONyNAMEza",
   "INEyONEyREACHzbPRESENTzbSOURCEzcTySELFzbVENzaIXzaOCIETYzaPECIALzaTOCKzbUDYzaUNzbPERVISEyTENzaH",
   "REEzaWOyWATERzaOODoKOREAN CHARACTER O HUzhJEONoLATIN CAPITAL LETTER AzkBzkCzkDzkEzkFzkGzkHzkIz",
   "kJzkKzkLzkMzkNzkOzkPzkQzkRzkSzkTzkUzkVzkWzkXzkYzkZuSMALL LETTER AziBziCziDziEziFziGziHziIziJzi",
   "KziLziMziNziOziPziQziRziSziTziUziVziWziXziYziZoNUMBER EIGHTEENwLEVENvFIFTEENwOURTEENvNINETEENv",
   "SEVENTEENwIXTEENvTENwHIRTEENwWELVEyNTYdROTdT ALTERNATION MARKeIAL DIFFERENTIALiLINE BACKWARDnD",
   "OWNnFORWARDnUPhLY-RECYCLED PAPER SYMBOLeNERSHIP SIGNeY POPPERcSSED SYMBOLfNGER SHIPeIVE-PULL-D",
   "OWN-OUTPUT SYMBOLnUP-OUTPUT SYMBOLePORT CONTROLcU CIN HAU GLOTTAL STOPy FINALzaVARIANTmLETTER ",
   "AtBAtCAuHAtDAtEtFAuINAL KzaLzaMzaNzbGzaPzaTzaWzaYtGAtHAtIuAtKAuHAtLAtMAtNAuGAtOtPAuHAtRAtSAtTA",
   "uHAtUuAtVAtZAnOW-FALLING TONEzd FINALzeLONGzi FINALmMID-LEVEL TONEzb FINALzcLONG FINALmRISING ",
   "TONEx FINALyLONGzd FINALmSANDHI GLOTTAL STOPzg FINALtTONEx FINALyLONGzd FINALcW PRINTSbDFcIbEA",
   "CE SYMBOLeHeOCKdNUTSdRcDESTRIANcN OVER STAMPED ENVELOPEdCILdGUINdSIVE FACEdTAGRAMcOPLE HUGGING",
   "cR MILLE SIGNeSIGNeTEN THOUSAND SIGNdCENT SIGNdFORMING ARTSdMANENT PAPER SIGNdPENDICULARn WITH",
   " SdSEVERING FACEeON BOWING DEEPLYhCLIMBINGhDOING CARTWHEELhFROWNINGhIN LOTUS POSITIONkSTEAMY R",
   "OOMhRAISING BOTH HANDS IN CELEBRATIONhWITH BALLnLOND HAIRmCROWNmFOLDED HANDSmHEADSCARFmPOUTING",
   " FACEgAL COMPUTERePECTIVEcSETA SIGNdO SIGNcTRI DISHbHAGS-PA DOUBLE HEAD MARKjLETTER ArLTERNATE",
   " YArSPIRATED FAqBAqCAsNDRABINDUrHAqDArDArZAqErEqFAqGArGAqHAqIqJAqKArHAqLAqMAqNArGArNArYAqOqPAr",
   "HAqQAqRAqSArHArMALL AqTArHArSAsHArTAsHAqUqVOICED HAvLESS SHAqWAqXAqYAqZArHAjMARK DOUBLE SHADoS",
   "HADjSINGLE HEAD MARKkUBJOINED LETTER RAzbWAzbYAlPERFIXED LETTER RAdISTOS DISC SIGN ARROWtBEEwH",
   "IVEuOOMERANGvWuULLS LEGtCAPTIVEvRPENTRY PLANEvTuHILDuLUBuOLUMNvMBxINING OBLIQUE STROKEtDOLIUMv",
   "VEtEAGLEtFLUTEtGAUNTLETuRATERtHELMETuIDEuORNtLIDvLYtMANACLESvTTOCKtOX BACKtPAPYRUSuEDESTRIANuL",
   "ANE TREEvUMED HEADtRAMuOSETTEtSAWuHIELDwPuLINGuMALL AXEuTRAINERtTATTOOED HEADuIARAuUNNYtVINEtW",
   "AVY BANDuOMANcILIPPINE DOUBLE PUNCTUATIONlSINGLE PUNCTUATIONcOENICIAN LETTER AINtLFsBETsDELTsG",
   "AMLsHEuTsKAFsLAMDsMEMsNUNsPEsQOFsROSHsSADEtEMKtHINsTAUtETsWAUsYODsZAIlNUMBER ONEv HUNDREDsTENt",
   "HREEtWENTYuOlWORD SEPARATORdLUSbICKeUP TRUCKcEcGd FACEeNOSEcLCROW SIGNdE OF POOdLcNATAdCHED FI",
   "NGERSfING HANDdE DECORATIONeAPPLEdWHEEL STARcSCESdTOLcTCHFORKj WITH TEE TOPbLACARDeE OF INTERE",
   "ST SIGNjWORSHIPdNCK CONSTANTp OVER TWO PIdYGROUND SLIDEeING CARD ACE OF CLUBSuDIAMONDSuHEARTSu",
   "SPADESnBACKoLACK JOKERnEIGHT OF CLUBSwDIAMONDSwHEARTSwSPADESnFIVE OF CLUBSvDIAMONDSvHEARTSvSPA",
   "DESoOOLpUR OF CLUBSvDIAMONDSvHEARTSvSPADESnJACK OF CLUBSvDIAMONDSvHEARTSvSPADESnKING OF CLUBSv",
   "DIAMONDSvHEARTSvSPADESoNIGHT OF CLUBSxDIAMONDSxHEARTSxSPADESnNINE OF CLUBSvDIAMONDSvHEARTSvSPA",
   "DESnQUEEN OF CLUBSwDIAMONDSwHEARTSwSPADESnRED JOKERnSEVEN OF CLUBSwDIAMONDSwHEARTSwSPADESoIX O",
   "F CLUBSuDIAMONDSuHEARTSuSPADESnTEN OF CLUBSuDIAMONDSuHEARTSuSPADESoHREE OF CLUBSwDIAMONDSwHEAR",
   "TSwSPADESoRUMP-1u0u1u2u3u4u5u6u7u8u9t2u0u1t3t4t5t6t7t8t9oWO OF CLUBSuDIAMONDSuHEARTSuSPADESnWH",
   "ITE JOKERcDcUdNGERdS SIGNj ABOVE EQUALS SIGNkIN LEFT HALF CIRCLEnRIGHT HALF CIRCLEnTRIANGLEkWI",
   "TH BLACK TRIANGLEpCIRCUMFLEX ACCENT ABOVEpDOT BELOWpSMALL CIRCLE ABOVEqUBSCRIPT TWOpTILDE ABOV",
   "EvBELOWe-MINUS SIGNdTOf FORM FIVEmOURlTHREEmWObMbOCKET CALCULATORcLICE CARkS REVOLVING LIGHThO",
   "FFICERcODLEcP DIRECTIONAL FORMATTINGqISOLATEdCORNcRTABLE STEREOcSEIDONdITION INDICATORdTAL HOR",
   "NhMARKl FACEeBOXcT OF FOODdABLE WATER SYMBOLeTOdTED PLANTcUCHdLTRY LEGdND SIGNdRING LIQUIDdTIN",
   "G CAT FACEiFACEcWER ON SYMBOLi-OFF SYMBOLgSLEEP SYMBOLhYMBOLbRAYER BEADScECEDESi ABOVE ALMOST ",
   "EQUAL TOpEQUALS SIGNpNOT ALMOST EQUAL TOtEQUAL TOpSINGLE-LINE EQUALS SIGNzcNOT EQUAL TOjBUT NO",
   "T EQUIVALENT TOjOR EQUAL TOpIVALENT TOjUNDER RELATIONdGNANT MANjPERSONjWOMANdSCRIPTION TAKEeEN",
   "TATION FORM FOR VERTICAL COLONziMMAzgEM DASHzhN DASHzhXCLAMATION MARKzgHORIZONTAL ELLIPSISzgID",
   "EOGRAPHIC COMMAzsFULL STOPzgLEFT ANGLE BRACKETzlBLACK LENTICULAR BRACKETzlCORNER BRACKETzmURLY",
   " BRACKETzlDOUBLE ANGLE BRACKETzlPARENTHESISzlSQUARE BRACKETzlTORTOISE SHELL BRACKETzlWHITE COR",
   "NER BRACKETzrLENTICULAR BRACKETzhOW LINEzgQUESTION MARKzgRIGHT ANGLE BRACKETzmBLACK LENTICULAR",
   " BRACKETzmCORNER BRACKETznURLY BRACKETzmDOUBLE ANGLE BRACKETzmPARENTHESISzmSQUARE BRACKETzmTOR",
   "TOISE SHELL BRACKETzmWHITE CORNER BRACKETzsLENTICULAR BRACKETzzhKCETzgSEMICOLONzgTWO DOT LEADE",
   "RzgWAVY LOW LINEdTZELdVIOUS PAGEcIMEdNCEgSSeT SCREEN SYMBOLfERh ICONdVACY MESSAGEfTE USE ONEmT",
   "WOl-1m2cOBING CANEdHIBITED SIGNdJECTIVEdPERTY LINEeORTIONkAL TOdSERPINAbSALTER PAHLAVI FOUR DO",
   "TS WITH CROSSzgDOTqLETTER ALEPHxBETHxDALETHxGIMELxHEzaTHxKAPHxLAMEDHxMEM-QOPHxNUNxPExSADHEzaME",
   "KHyHINxTAWxWAW-AYIN-RESHxYODHxZAYINqNUMBER FOURxONEzb HUNDREDxTENyHREEyWENTYzaOqSECTION MARKqT",
   "URNED SECTION MARKbU1c2cBLIC ADDRESS LOUDSPEAKERcNCTUATION SPACEgS ELEVATUS MARKcRPLE HEARTdSE",
   "cSHPINcT LITTER IN ITS PLACE SYMBOLaQUADRANT LOWER LEFTpRIGHTjUPPER LEFTt AND LOWER LEFT AND L",
   "OWER RIGHTzfRIGHTyUPPER RIGHT AND LOWER LEFTzvRIGHTpRIGHTu AND LOWER LEFTzk AND LOWER RIGHTfUP",
   "LE INTEGRAL OPERATORkPRIMEdRTER NOTEdTERNION INTEGRAL OPERATORcESTION EXCLAMATION MARKjMARKiED",
   " EQUAL TOcINCUNXcOTATION MARKaRABBITg FACEcCCOONdING CARhMOTORCYCLEcDICAL SYMBOL BOTTOMeOf BUT",
   "TONfACTIVE SIGNcILWAY CARiTRACKdNeBOWdSED BACK OF HANDhCOMMAhDOTkTED INTERPOLATION MARKERhFIST",
   "hHANDl WITH FINGERS SPLAYEDrPART BETWEEN MIDDLE AND RING FINGERShINTERPOLATION MARKERhMC SIGNi",
   "D SIGNiR SIGNhSQUAREcMcTdIOcZORbECEIPTdORD SEPARATORdREATIONAL VEHICLEdYCLED PAPER SYMBOLgING ",
   "SYMBOL FOR GENERIC MATERIALSvTYPE-1 PLASTICSzb2 PLASTICSzb3 PLASTICSzb4 PLASTICSzb5 PLASTICSzb",
   "6 PLASTICSzb7 PLASTICScD APPLEeGIFT ENVELOPEcFERENCE MARKcGIONAL INDICATOR SYMBOL LETTER AziBz",
   "iCziDziEziFziGziHziIziJziKziLziMziNziOziPziQziRziSziTziUziVziWziXziYziZeSTERED SIGNcJANG CONSO",
   "NANT SIGN HwNxGwRhLETTER AoBAoCAoDAoGAoHAoJAoKAoLAoMApBAoNApDApGAqGApYAqJAoPAoRAoSAoTAoWAoYAhS",
   "ECTION MARKhVIRAMAiOWEL SIGN AItUsEtAtUsIsOsUcLIEVED FACEcMINDER RIBBONcPLACEMENT CHARACTERcSP",
   "ONSEdTRICTED LEFT ENTRY-1w2fOOMcTURN LEFThRIGHThSYMBOLcVERSE CHECKER BOARDiINDEXiLIGHT FOUR PO",
   "INTED PINWHEEL STARkNE FEEDiSOLIDUSp OPERATORqPRECEDING SUBSETqWITH HORIZONTAL STROKEiTILDE OP",
   "ERATOR ABOVE LEFTWARDS ARROWzeRIGHTWARDS ARROWhD ANGLEo WITH UNDERBARjCOMMAjDOUBLE PRIMEv QUOT",
   "ATION MARKqSTROKE NOT SIGNjEMPTY SETjFORKED PARAGRAPHOSjHAND WITH MIDDLE FINGER EXTENDEDjNOT S",
   "IGNjPILCROW SIGNkRIMEjQUESTION MARKjRAISED HAND WITH FINGERS SPLAYEDkIGHT ANGLEkOTATED FLORAL ",
   "HEART BULLETjSANS-SERIF CAPITAL LkEMICOLONjTHUMBS DOWN SIGNqUP SIGNkILDEo EQUALSkRIPLE PRIMEjV",
   "ICTORY HANDdOLVING HEARTSbHINOCEROSbIcAL SIGNcBBONg ARROW DOWN LEFTsRIGHTnLEFT DOWNsUPnRIGHT D",
   "OWNtUPnUP LEFTqRIGHTcCE BALLfCRACKERcFLEcGHT AND LOWER ONE EIGHTH BLOCKkUPPER ONE EIGHTH BLOCK",
   "iGER BUBBLEjLEl BRACKETt WITH DOTmDOTTED SUBSTITUTION MARKERmSUBSTITUTION MARKERmVARIANT WITH ",
   "SQUAREmWITH ARCrDOWNWARDS ZIGZAG ARROWhRC GREATER-THAN BRACKETiROW WITH CIRCLED PLUSrSMALL CIR",
   "CLEgBLACK LENTICULAR BRACKETmTORTOISE SHELL BRACKETgCEILINGhORNER BRACKEThURLY BRACKETt LOWER ",
   "HOOKuMIDDLE PIECEuUPPER HOOKgDOTTED SUBSTITUTION BRACKETiUBLE ANGLE BRACKEToRROW WITH ROUNDED ",
   "HEADnPARENTHESISnQUOTATION MARKnWIGGLY FENCEgFISH TAILiVE EIGHTHS BLOCKhLOORgHALF BLACK CIRCLE",
   "rSTARnOCKlFOLDERlMEDIUM SHADElRUNNING MANiND TELEPHONE RECEIVERgLOW PARAPHRASE BRACKETgNORMAL ",
   "FACTOR SEMIDIRECT PRODUCTgONE EIGHTH BLOCKkQUARTER BLOCKhPEN SQUARED DOThUTER JOINgPARENTHESIS",
   "r EXTENSIONsLOWER HOOKsUPPER HOOKgRAISED OMISSION BRACKETgS-SHAPED BAG DELIMITERhEMIDIRECT PRO",
   "DUCTiVEN EIGHTHS BLOCKhIDEWAYS U BRACKETiNGLE QUOTATION MARKhPEAKERn WITH ONE SOUND WAVEtTHREE",
   " SOUND WAVESjECH BUBBLEhQUARE BRACKETu EXTENSIONvLOWER CORNERvUPPER CORNERvWITH DOUBLE STROKEz",
   "bQUILLzbSTROKEzbTICK IN BOTTOM CORNERzjTOP CORNERzbUNDERBARhUBSTITUTION BRACKETgTACKhHIRD WHIT",
   "E RIGHT POINTING INDEXiOUGHT BUBBLEiREE EIGHTHS BLOCKmQUARTERS BLOCKhORTOISE SHELL BRACKEThRAN",
   "SPOSITION BRACKETiIANGLEo ABOVE LEFT TRIANGLEmULAR ONE QUARTER BLOCKgVERTICAL BAR WITH QUILLqO",
   "X LINEgWHITE CORNER BRACKETnURLY BRACKETmLENTICULAR BRACKETmPARENTHESISmSQUARE BRACKETmTORTOIS",
   "E SHELL BRACKEThIGGLY FENCEf-FACING ARMENIAN ETERNITY SIGNnFISTnSVASTI SIGNy WITH DOTSgHANDED ",
   "INTERLACED PENTAGRAMgPOINTING ANGLE BRACKETpCURVED ANGLE BRACKETpDOUBLE ANGLE QUOTATION MARKpM",
   "AGNIFYING GLASSgSHADED WHITE RIGHTWARDS ARROWhIDE ARC CLOCKWISE ARROWgTO-LEFT EMBEDDINGoISOLAT",
   "EoMARKoOVERRIDEfHAND INTERIOR PRODUCTfWARDS ARROWq ABOVE ALMOST EQUAL TOxREVERSE ALMOST EQUAL ",
   "TOzgTILDE OPERATORxSHORT LEFTWARDS ARROWxTILDE OPERATORsND UPPER AND LOWER ONE EIGHTH BLOCKrFR",
   "OM BARza TO BLACK DIAMONDrOVER LEFTWARDS ARROWrTHROUGH GREATER-THANzaSUPERSETzaXsO BARvLACK DI",
   "AMONDrWITH CORNER DOWNWARDSwDOTTED STEMyUBLE VERTICAL STROKEwEQUILATERAL ARROWHEADwHOOKwLARGE ",
   "TRIANGLE ARROWHEADxOOPwMEDIUM TRIANGLE ARROWHEADwNOTCHED TAILwPLUS BELOWwSMALL EQUILATERAL ARR",
   "OWHEADzdTRIANGLE ARROWHEADxTROKEwTAILzb WITH DOUBLE VERTICAL STROKEzhVERTICAL STROKExIP DOWNWA",
   "RDSzbUPWARDSwVERTICAL STROKEq-TAILlBACK-TILTED SHADOWED WHITE ARROWmLACK ARROWrCIRCLED WHITE A",
   "RROWmOTTOM SHADED WHITE ARROWlCOMPRESSED ARROWlDASHED ARROWmOUBLE ARROWx FROM BARyWITH STROKEz",
   "eVERTICAL STROKEx-TAILsDASH ARROWlFINGER-POST ARROWmRONT-TILTED SHADOWED WHITE ARROWlHANDnRPOO",
   "N OVER LEFTWARDS HARPOONtWITH BARB DOWN ABOVE LEFTWARDS HARPOON WITH BARB DOWNzjBELOW LONG DAS",
   "HzjFROM BARzjTO BARziWARDSzeUP ABOVE LEFTWARDS HARPOON WITH BARB UPzoONG DASHznRIGHTWARDS HARP",
   "OON WITH BARB DOWNzhFROM BARzhTO BARzgWARDSmEAVY ARROWrCOMPRESSED ARROWlLEFT-SHADED WHITE ARRO",
   "WlOPEN-HEADED ARROWlPAIRED ARROWSlQUADRUPLE ARROWlRIGHT-SHADED WHITE ARROWmOCKETlSANS-SERIF AR",
   "ROWmQUARED ARROWoIGGLE ARROWlTOP SHADED WHITE ARROWmRIANGLE ARROWHEADt-HEADED ARROWzh OVER LEF",
   "TWARDS TRIANGLE-HEADED ARROWziTO BARziWITH BOLD SHAFTznDOUBLE HORIZONTAL STROKEzuVERTICAL STRO",
   "KEznHEAVY SHAFTznLONG TIP DOWNWARDSzwUPWARDSznMEDIUM SHAFTznNARROW SHAFTznVERY HEAVY SHAFTzcDA",
   "SHED ARROWzcPAIRED ARROWSoPLE ARROWsDASH ARROWmWO HEADED ARROWo-HEADED ARROW FROM BARzdWITH DO",
   "UBLE VERTICAL STROKEziTAILzm WITH DOUBLE VERTICAL STROKEzsVERTICAL STROKEzjRIANGLE ARROWHEADSz",
   "iVERTICAL STROKEwTRIPLE DASH ARROWlWAVE ARROWmHITE ARROWw FROM WALLxWITHIN TRIANGLE ARROWHEADc",
   "NGe ABOVEfBUOYfEQUAL TOfIN EQUAL TOfOPERATORfPOINTeED PLANETeING BELLcSING DIAGONAL CROSSING F",
   "ALLING DIAGONALzaSOUTH EAST ARROWbLEcIcMcObOASTED SWEET POTATOcBOT FACEcCKeETcLL OF PAPEReED-U",
   "P NEWSPAPERfR COASTERhSKATEeING ON THE FLOOR LAUGHINGcMAN AS SIGNgCENTURIAL SIGNgDENARIUS SIGN",
   "hIMIDIA SEXTULA SIGNhUPONDIUS SIGNgNUMERAL EIGHTpLEVENoFIFTYt EARLY FORMuTHOUSANDqVEs HUNDREDt",
   "THOUSANDpOURoNINEoONEr HUNDREDza THOUSANDsTHOUSANDzb C DoREVERSED ONE HUNDREDoSEVENpIXr LATE F",
   "ORMoTENr THOUSANDpHREEpWELVEqOgQUINARIUS SIGNgSEMUNCIA SIGNiSTERTIUS SIGNiXTANS SIGNkULA SIGNh",
   "ILIQUA SIGNgUNCIA SIGNcOSTERcSEeTTEcTATED CAPITAL QiFLORAL HEART BULLETiHEAVY BLACK HEART BULL",
   "ETiLIGHT FOUR POINTED BLACK CUSPiWHITE FOUR POINTED CUSPcUND PUSHPINgTARGETfED SYMBOL FOR CAIt",
   "FUtLUtSHOUvUANGXItXIcWBOATbSbUBLE SIGNcGBY FOOTBALLcLE-DELAYEDcMI DIGIT EIGHTlFIVEmOURlNINElON",
   "ElSEVENmIXlTHREEmWOfFRACTION ONE HALFsQUARTERsTHIRDoTWO THIRDSfNUMBER EIGHT HUNDREDrYmFIFTYoVE",
   " HUNDREDnORTYoUR HUNDREDmNINE HUNDREDqTYmONE HUNDREDmSEVEN HUNDREDrTYnIX HUNDREDpTYmTENnHIRTYo",
   "REE HUNDREDnWENTYoO HUNDREDcNIC ARLAUG SYMBOLgBELGTHOR SYMBOLgCROSS PUNCTUATIONgLETTER AC AoES",
   "CoLGIZ EOLHXoNSUZ AnBERKANAN BEORC BJARKAN BnCoALCoEALCpNoWEORTHnDoAGAZ DAEG DoOTTED-LuNuPnEoA",
   "RoHWAZ EH EoNGoTHnFEHU FEOH FE FoRANKS CASKET ACzdESCzcEHzcISzcOSnGoARoEBO GYFU GpRnHAEGL HpGL",
   "AZ HnICELANDIC-YRoNGqWAZoORoSAZ IS ISS IoWAZ EOHnJERAN JnKoAUN KrAnLAUKAZ LAGU LOGR LoONG-BRAN",
   "CH-AR AEzaHAGALL HzaMADR MzaOSS OzaYRnMANNAZ MAN MnNAUDIZ NYD NAUD NnOoEoNoOoPEN-PoS OoTHALAN ",
   "ETHEL OnPERTHO PEORTH PnQnRAIDO RAD REID RnSHpORT-TWIG-AR AyBJARKAN ByHAGALL HyMADR MyNAUD NyO",
   "SS OySOL SyTYR TyYRoIGEL LONG-BRANCH-SOL SoOWILO SoTANnTHURISAZ THURS THORNoIWAZ TIR TYR TnURU",
   "Z UR UnVnWoUNJO WYNN WnXnYoRnZgMULTIPLE PUNCTUATIONgSINGLE PUNCTUATIONgTVIMADUR SYMBOLdNEReING",
   " SHIRT WITH SASHcPEE SIGNcSSIAN ASTROLOGICAL SYMBOL BINOVILEzdNOVILEzdQUINTILEzdSENTAGONzdTRED",
   "ECILEzdVIGINTILE"]

end SystemDynamics.Text
