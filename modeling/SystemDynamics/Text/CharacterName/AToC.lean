/-!
# Names of characters, A to C

The names of the characters of Unicode 14 and their other names that begin with the letters A to
C, in order. Small letters before a name say how many characters it shares with the name before
it: `a` is none, `b` is one, and a `z` adds 25 to the letter behind it. What follows is the rest of
the name. Names that are written by a rule are left out.
-/

namespace SystemDynamics.Text

/-- The names, a piece a line; names go on from one line to the next. -/
def namesAToC : List String :=
  ["aABACUSbC CURRENTcCORDIONeUNT OFcKdNOWLEDGEcTIVATE ARABIC FORM SHAPINGjSYMMETRIC SWAPPINGcUTE ",
   "ACCENThNGLEbDDRESSED TO THE SUBJECTcHESIVE BANDAGEcI SHAKTIcLAM ALIF LENGTHENERgCAPITAL LETTER",
   " ALIFvBAwHEvCHIvDAALIwHAvEvFAvGAwBEvHAvIvJIIMvKAFwHAwPOvLAAMvMIIMvNHAwUNwYAvOvPEvQAAFvRAvSHAwI",
   "NNYIIYHEvTUvUvVAvWAWvYAwHEvZALhONSONANT MODIFIERgDIGIT EIGHTmFIVEnOURmNINEmONEmSEVENnIXmTHREEn",
   "WOmZEROgGEMINATE CONSONANT MODIFIERnION MARKgHAMZAgINITIAL EXCLAMATION MARKoQUESTION MARKgNASA",
   "LIZATION MARKhUKTAgSMALL LETTER ALIFtBAuHEtCHItDAALIuHAtEtFAtGAuBEtHAtItJIIMtKAFuHAuPOtLAAMtMI",
   "IMtNHAuUNuYAtOtPEtQAAFtRAtSHAuINNYIIYHEtTUtUtVAtWAWtYAuHEtZALgVOWEL LENGTHENERcMETOSdISSION TI",
   "CKETScULTbEGEAN CHECK MARKhDRY MEASURE FIRST SUBUNIThLIQUID MEASURE FIRST SUBUNIThMEASURE SECO",
   "ND SUBUNITpTHIRD SUBUNIThNUMBER EIGHTt HUNDREDuTHOUSANDtYu THOUSANDoFIFTYt THOUSANDqVEs HUNDRE",
   "DtTHOUSANDpORTYt THOUSANDqURs HUNDREDtTHOUSANDoNINEs HUNDREDtTHOUSANDsTYu THOUSANDoONEr HUNDRE",
   "DsTHOUSANDoSEVENt HUNDREDuTHOUSANDtTYv THOUSANDpIXr HUNDREDsTHOUSANDrTYt THOUSANDoTENr THOUSAN",
   "DpHIRTYu THOUSANDqREEt HUNDREDuTHOUSANDpWENTYu THOUSANDqOr HUNDREDsTHOUSANDhWEIGHT BASE UNIToF",
   "IRST SUBUNITpOURTH SUBUNIToSECOND SUBUNIToTHIRD SUBUNITiORD SEPARATOR DOTwLINEcRIAL TRAMWAYbFG",
   "HANI SIGNbHOM CONSONANT SIGN MEDIAL LAzdIGATING RAzcRAfDIGIT EIGHTlFIVEmOURlNINElONElSEVENmIXl",
   "THREEmWOlZEROfLETTER AnLTERNATE BAwGAwTAmBAnHAmCAnHAmDAnDAoHAnHAmGAnHAmHAmJAnHAmKAnHAmLAnLAmMA",
   "mNAnGAnNAnYAmPAnHAmRAmSAmTAnHAnTAoHAfNUMBER TENnWENTYfSIGN KILLERkRULAIkSECTIONlMALL SECTIONgY",
   "MBOL VIfVOWEL SIGN ArArIrMrWqEqIrIqOqUrUbIRPLANEi ARRIVINGjDEPARTUREbKTIESELSKABbLARM CLOCKcCH",
   "EMICAL SYMBOL FOR AIRxLEMBICyKALIzd-2yUMxMALGAMxNTIMONY ORExQUA REGIAzh-2zcVITAEzh-2zbFORTISxR",
   "SENICxSHESxURIPIGMENTwBATH OF MARYzfVAPOURSxISMUTH ORExLACK SULFURxORAXzc-2zd3xRICKwCADUCEUSyL",
   "XyPUT MORTUUMxINNABARxOPPER ANTIMONIATEzeORExROCUS OF COPPERzn-2zhIRONyUCIBLEzf-2zg3zg4zg5wDAY",
   "-NIGHTxISSOLVEzf-2zaTILLwEARTHwFIREwGOLDxUMwHALF DRAMzcOUNCExORSE DUNGyURwIRON OREzf-2zb-COPPE",
   "R OREwLEAD ORExODESTONEwMARCASITExERCURY SUBLIMATEzo-2zp3xONTHwNIGHTyTREwOILwPHILOSOPHERS SULF",
   "URxOT ASHESyWDERzdED BRICKxRECIPITATExURIFYyTREFACTIONwQUICK LIMEzaNTESSENCEwREALGARze-2yGULUS",
   "ze OF ANTIMONYzq-2ziIRONze-2zf3zf4yTORTxOCK SALTzg-2wSAL-AMMONIACzaTzb OF ANTIMONYzfCOPPER ANT",
   "IMONIATExCEPTER OF JOVExILVERxOAPxPIRITxTARRED TRIDENTyRATUM SUPER STRATUMzs-2xUBLIMATE OF ANT",
   "IMONYzkCOPPERzkSALT OF ANTIMONYzsCOPPERzfIONyLFURwTARTARzd-2xIN OREzaCTURExRIDENTxUTTYwURINEwV",
   "ERDIGRISxINEGARze OF ANTIMONYze-2zf3yTRIOLze-2wWATERyXcEF SYMBOLdMBICdRTcIEN MONSTERcL AROUND-",
   "PROFILEeEQUAL TOcMdOST EQUAL OR EQUAL TOnTOp WITH CIRCUMFLEX ACCENTcTERNATE ONE-WAY LEFT WAY T",
   "RAFFICiIVE KEY SYMBOLbMALGAMATION OR COPRODUCTcBULANCEcERICAN FOOTBALLcPERSANDdHORAbNATOLIAN H",
   "IEROGLYPH A001y2y3y4y5y6y7y8y9x10zaAy1y2y3y4y5y6y7y8y9x20y1y2y3y4y5y6zaAy7y8y9x30y1y2y3y4y5y6y",
   "7y8y9zaAx40y1zaAy2y3y4y5zaAy6zaAzaBy7y8y9x50y1y2y3y4y5y6y7y8y9x60y1y2y3y4y5y6zaAzaBzaCy7y8y9x7",
   "0y1y2y3y4y5y6y7y8y9x80y1y2y3y4y5y6y7y8y9x90y1y2y3y4y5y6y7zaAy8zaAy9w100zaAy1zaAy2zaAy3y4zaAzaB",
   "zaCy5zaAzaBy6y7zaAzaBzaCy8y9x10zaAzaBy1y2y3y4y5zaAy6y7y8y9x20y1y2y3y4y5zaAy6y7y8y9x30y1y2y3y4y",
   "5zaAy6y7y8y9x40y1y2y3y4y5y6y7y8y9x50y1y2y3y4y5y6y7y8y9x60y1y2y3y4y5y6y7y8y9x70y1y2y3y4y5y6y7y8",
   "y9x80y1y2y3y4y5y6y7y8y9x90y1y2y3y4y5y6y7y8y9w200y1y2zaAzaBy3y4y5y6y7zaAy8y9zaAx10y1y2y3y4y5zaA",
   "y6zaAy7y8y9x20y1y2y3y4y5y6y7zaAy8y9x30y1y2y3y4y5y6y7y8y9x40y1y2y3y4y5y6y7y8y9x50y1y2y3y4y5y6y7",
   "y8y9x60y1y2y3y4y5y6y7zaAy8y9x70y1y2y3y4y5y6y7y8y9x80y1y2y3y4y5y6y7y8y9zaAx90y1y2y3y4zaAy5y6y7y",
   "8y9zaAw300y1y2y3y4y5y6y7y8y9zaAx10y1y2y3y4y5y6y7y8y9x20y1y2y3y4y5y6y7y8y9zaAx30y1y2AzaBzaCy3y4",
   "y5y6zaAzaBzaCy7y8y9x40y1y2y3y4y5y6y7y8y9x50y1y2y3y4y5y6y7y8y9zaAx60y1y2y3y4zaAy5y6y7y8zaAy9x70",
   "y1zaAy2y3y4y5y6y7y8y9x80y1zaAy2y3 RA OR RIzaAy4y5y6zaAy7y8y9x90y1y2y3 EIGHTy4y5y6y7y8y9w400y1y",
   "2y3y4y5y6y7y8y9x10 BEGIN LOGOGRAM MARKzaA END LOGOGRAM MARKy1y2y3y4y5y6y7y8y9x20y1y2y3y4y5y6y7",
   "y8y9x30y1y2y3y4y5y6y7y8y9x40y1y2y3y4y5y6y7y8y9x50zaAy1y2y3y4y5y6y7zaAy8y9x60y1y2y3y4y5y6y7y8y9",
   "x70y1y2y3y4y5y6y7y8y9x80y1y2y3y4y5y6y7y8y9x90y1y2y3y4y5y6y7w501y2y3y4y5y6y7y8y9x10y1y2y3y4y5y6",
   "y7y8y9x20y1y2y3y4y5y6y7y8y9x30fMICAL HEARTcCHORcD WITH DOTcGER SYMBOLdLEf WITH S INSIDElUNDERB",
   "ARdRY FACEdSTROM SIGNdUISHED FACEcKHcTdENNA WITH BARSdICLOCKWISE CLOSED CIRCLE ARROWpONTOUR IN",
   "TEGRALoDOWNWARDS AND UPWARDS OPEN CIRCLE ARROWSoGAPPED CIRCLE ARROWoINTEGRATIONoOPEN CIRCLE AR",
   "ROWoTOP SEMICIRCLE ARROWpRIANGLE-HEADED BOTTOM U-SHAPED ARROWzfLEFT U-SHAPED ARROWzfOPEN CIRCL",
   "E ARROWzfRIGHT U-SHAPED ARROWzfTOP U-SHAPED ARROWbPCcL FUNCTIONAL SYMBOL ALPHAzc UNDERBARwBACK",
   "SLASH BARwCIRCLE BACKSLASHzeDIAERESISzeJOTzeSTARzgILEzeUNDERBARxOMMA BARwDEL DIAERESISzbSTILEz",
   "bTILDEzaTA STILEzdUNDERBARxIAMOND UNDERBARxOWN CARET TILDEzcSHOE STILEzcTACK JOTzhUNDERBARzbWA",
   "RDS VANEwEPSILON UNDERBARwGREATER-THAN DIAERESISwI-BEAMxOTAzb UNDERBARwJOT DIAERESISzbUNDERBAR",
   "wLEFT SHOE STILEzbWARDS VANEwOMEGAzc UNDERBARwQUADzb BACKSLASHzcCIRCLEzdOLONzcDELzfTAzdIAMONDz",
   "eVIDEzdOWN CARETzgWARDS ARROWzcEQUALzcGREATER-THANzcJOTzcLEFTWARDS ARROWzeSS-THANzcNOT EQUALzc",
   "QUESTIONzcRIGHTWARDS ARROWzcSLASHzcUP CARETzeWARDS ARROWyOTE QUADzdUNDERBARwRHOxIGHTWARDS VANE",
   "wSEMICOLON UNDERBARxLASH BARxQUISH QUADxTAR DIAERESISyILE TILDEwTILDE DIAERESISwUP CARET TILDE",
   "zaSHOE JOTzaTACK DIAERESISzfJOTzfOVERBARyWARDS VANEwZILDEcOLLONdSTROPHEcPLICATION PROGRAM COMM",
   "ANDdROACHES THE LIMITfXIMATELY BUT NOT ACTUALLY EQUAL TOoEQUAL OR EQUAL TOuTOw OR THE IMAGE OF",
   "bQUARIUSbRABIC BASELINE ROUND DOThCOMMAiURLY DAMMAsTANnFATHAsTANnKASRAsTANhDAMMAm ISOLATED FOR",
   "MnMEDIAL FORMnWITH DOTmTANp ISOLATED FORMjTE SEPARATORiECIMAL SEPARATORiISPUTED END OF AYAHiOU",
   "BLE RIGHT ARROWHEAD ABOVEzk WITH DOTnD MADDAhEMPTY CENTRE HIGH STOPuLOW STOPiND OF AYAHoTEXT M",
   "ARKhFATHAm ISOLATED FORMnMEDIAL FORMnWITH DOT ABOVEsRINGsTWO DOTSmTANp ISOLATED FORMiIVE POINT",
   "ED STARiOOTNOTE MARKERiULL STOPhHALF MADDA OVER MADDAjMZA ABOVEnBELOWhINVERTED DAMMAhKASRAm IS",
   "OLATED FORMnMEDIAL FORMnWITH DOT BELOWmTANp ISOLATED FORMhLARGE CIRCLE BELOWnROUND DOT ABOVExB",
   "ELOWxINSIDE CIRCLE BELOWiEFT ARROWHEAD ABOVEwBELOWjTTER AEpFRICAN FEHwNOONwQAFza WITH THREE DO",
   "TS ABOVEpINr FINAL FORMsINITIAL FORMtSOLATED FORMsMEDIAL FORMsWITH THREE DOTS ABOVEzjBELOWzjPO",
   "INTING DOWNWARDS ABOVEyWO DOTS ABOVEzhVERTICALLY ABOVEpLEFs FINAL FORMtISOLATED FORMtMAKSURAzb",
   " FINAL FORMzcISOLATED FORMtWASLAy FINAL FORMzaISOLATED FORMuITH ATTACHED BOTTOM RIGHT KASRAzzb",
   " AND DOT ABOVEzzgLEFT RINGziFATHAziKASRAziLEFT HAMZAznROUND DOTziRIGHT HAMZAzoROUND DOTzjOUND ",
   "DOT ABOVEzsBELOWziTOP RIGHT FATHAzx AND DOT ABOVEzzdLEFT RINGyDOT ABOVEyEXTENDED ARABIC-INDIC ",
   "DIGIT THREE ABOVEzzdWO ABOVEyHAMZA ABOVEzk FINAL FORMzlISOLATED FORMzfBELOWzk FINAL FORMzlISOL",
   "ATED FORMyLEFT MIDDLE STROKEyMADDA ABOVEzk FINAL FORMzlISOLATED FORMyRIGHT MIDDLE STROKEzs AND",
   " DOT ABOVEzxLEFT RINGyWAVY HAMZA ABOVEzkBELOWoBEEHs FINAL FORMtINITIAL FORMuSOLATED FORMtMEDIA",
   "L FORMqHr FINAL FORMsINITIAL FORMtSOLATED FORMsMEDIAL FORMsWITH DOT BELOW AND THREE DOTS ABOVE",
   "xHAMZA ABOVExINVERTED SMALL V BELOWxSMALL MEEM ABOVEzeVzf BELOWxTHREE DOTS HORIZONTALLY BELOWz",
   "jPOINTING UPWARDS BELOWzzg AND TWO DOTS ABOVEyWO DOTS BELOW AND DOT ABOVErEHt FINAL FORMuINITI",
   "AL FORMvSOLATED FORMuMEDIAL FORMoDADr FINAL FORMsINITIAL FORMtSOLATED FORMsMEDIAL FORMsWITH DO",
   "T BELOWqHALt FINAL FORMuISOLATED FORMqLr FINAL FORMsISOLATED FORMsWITH DOT BELOWzh AND SMALL T",
   "AHxFOUR DOTS ABOVExINVERTED SMALL V BELOWzhVxRINGxTHREE DOTS ABOVE DOWNWARDSzjBELOWyWO DOTS VE",
   "RTICALLY BELOW AND SMALL TAHpDAHALu FINAL FORMvISOLATED FORMrLs FINAL FORMtISOLATED FORMpOTLES",
   "S BEHwFEHwQAFpULr FINAL FORMsISOLATED FORMpYEHs FINAL FORMtINITIAL FORMuSOLATED FORMtMEDIAL FO",
   "RMoEp FINAL FORMqINITIAL FORMrSOLATED FORMqMEDIAL FORMoFARSI YEHx FINAL FORMyINITIAL FORMzaSOL",
   "ATED FORMyMEDIAL FORMyWITH EXTENDED ARABIC-INDIC DIGIT FOUR BELOWzzhTHREE ABOVEzziWO ABOVEzeIN",
   "VERTED VzeTHREE DOTS ABOVEzfWO DOTS ABOVEpEHr FINAL FORMsINITIAL FORMtSOLATED FORMsMEDIAL FORM",
   "sWITH DOT BELOWzh AND THREE DOTS ABOVEzcMOVED BELOWxTHREE DOTS BELOWzjPOINTING UPWARDS BELOWyW",
   "O DOTS BELOWoGAFr FINAL FORMsINITIAL FORMtSOLATED FORMsMEDIAL FORMsWITH INVERTED STROKExRINGxT",
   "HREE DOTS ABOVEyWO DOTS BELOWpHAINt FINAL FORMuINITIAL FORMvSOLATED FORMuMEDIAL FORMuWITH DOT ",
   "BELOWzaTHREE DOTS ABOVEpRAFpUEHs FINAL FORMtINITIAL FORMuSOLATED FORMtMEDIAL FORMoHAHr FINAL F",
   "ORMsINITIAL FORMtSOLATED FORMsMEDIAL FORMsWITH EXTENDED ARABIC-INDIC DIGIT FOUR BELOWxHAMZA AB",
   "OVExINVERTED SMALL V BELOWxSMALL ARABIC LETTER TAH ABOVEzxND TWO DOTSzwBELOWxTHREE DOTS ABOVEz",
   "jPOINTING UPWARDS BELOWyWO DOTS ABOVEzhVERTICAL ABOVEqMZAt ISOLATED FORMpEHr DOACHASHMEEze FIN",
   "AL FORMzfINITIAL FORMzgSOLATED FORMzfMEDIAL FORMsFINAL FORMsGOALw FINAL FORMxINITIAL FORMySOLA",
   "TED FORMxMEDIAL FORMxWITH HAMZA ABOVEsINITIAL FORMtSOLATED FORMsMEDIAL FORMsWITH INVERTED VxYE",
   "H ABOVEzh FINAL FORMziISOLATED FORMpIGH HAMZAy ALEFzaWAWzaYEHoJEEMs FINAL FORMtINITIAL FORMuSO",
   "LATED FORMtMEDIAL FORMtWITH THREE DOTS ABOVEzkBELOWzaWO DOTS ABOVEqHr FINAL FORMsISOLATED FORM",
   "oKAFr FINAL FORMsINITIAL FORMtSOLATED FORMsMEDIAL FORMsWITH DOT ABOVEzcBELOWxRINGxTHREE DOTS B",
   "ELOWyWO DOTS ABOVEqSHMIRI YEHpEHEHt FINAL FORMuINITIAL FORMvSOLATED FORMuMEDIAL FORMuWITH DOT ",
   "ABOVEzaSMALL VzaTHREE DOTS ABOVEzlBELOWzlPOINTING UPWARDS BELOWzbWO DOTS ABOVEzjVERTICALLY BEL",
   "OWpHAHs FINAL FORMtINITIAL FORMuSOLATED FORMtMEDIAL FORMpIRGHIZ OEy FINAL FORMzaISOLATED FORMw",
   "YUy FINAL FORMzaISOLATED FORMoLAMr FINAL FORMsINITIAL FORMtSOLATED FORMsMEDIAL FORMsWITH BARxD",
   "OT ABOVEzaUBLE BARxSMALL ARABIC LETTER TAH ABOVEzeVxTHREE DOTS ABOVEzjBELOWpOW ALEFoMARKpEEMs ",
   "FINAL FORMtINITIAL FORMuSOLATED FORMtMEDIAL FORMtWITH DOT ABOVEzdBELOWyTHREE DOTS ABOVEoNGq FI",
   "NAL FORMrINITIAL FORMsSOLATED FORMrMEDIAL FORMqOEHt FINAL FORMuINITIAL FORMvSOLATED FORMuMEDIA",
   "L FORMpOONs FINAL FORMtGHUNNAza FINAL FORMzbISOLATED FORMtINITIAL FORMuSOLATED FORMtMEDIAL FOR",
   "MtWITH DOT BELOWyINVERTED SMALL VyRINGySMALL TAHzfVyTHREE DOTS ABOVEzaWO DOTS BELOWpYEHs FINAL",
   " FORMtINITIAL FORMuSOLATED FORMtMEDIAL FORMoOEq FINAL FORMrISOLATED FORMoPEHr FINAL FORMsINITI",
   "AL FORMtSOLATED FORMsMEDIAL FORMsWITH SMALL MEEM ABOVEzeVrEHt FINAL FORMuINITIAL FORMvSOLATED ",
   "FORMuMEDIAL FORMoQAFr FINAL FORMsINITIAL FORMtSOLATED FORMsMEDIAL FORMsWITH DOT ABOVEzcBELOWzh",
   " AND NO DOTS ABOVExTHREE DOTS ABOVEoREHr FINAL FORMsISOLATED FORMsWITH DOT BELOWzh AND DOT ABO",
   "VExFOUR DOTS ABOVExHAMZA ABOVExINVERTED VxLOOPxRINGxSMALL ARABIC LETTER TAH AND TWO DOTSzeNOON",
   " ABOVEzeVzf BELOWyTROKExTWO DOTS ABOVEzhVERTICALLY ABOVEpNOONt FINAL FORMuINITIAL FORMvSOLATED",
   " FORMuMEDIAL FORMpOHINGYA YEHpREHs FINAL FORMtISOLATED FORMoSADr FINAL FORMsINITIAL FORMtSOLAT",
   "ED FORMsMEDIAL FORMsWITH THREE DOTS ABOVEzjBELOWyWO DOTS BELOWpEENs FINAL FORMtINITIAL FORMuSO",
   "LATED FORMtMEDIAL FORMtWITH DOT BELOW AND DOT ABOVEyEXTENDED ARABIC-INDIC DIGIT FOUR ABOVEyFOU",
   "R DOTS ABOVEyINVERTED VySMALL ARABIC LETTER TAH AND TWO DOTSyTHREE DOTS BELOWzp AND THREE DOTS",
   " ABOVEzaWO DOTS VERTICALLY ABOVEpHEENt FINAL FORMuINITIAL FORMvSOLATED FORMuMEDIAL FORMuWITH D",
   "OT BELOWpTRAIGHT WAWpUPERSCRIPT ALEFpWASH KAFoTAHr FINAL FORMsINITIAL FORMtSOLATED FORMsMEDIAL",
   " FORMsWITH DOT BELOWxTHREE DOTS ABOVEzjBELOWyWO DOTS ABOVEpCHEHt FINAL FORMuINITIAL FORMvSOLAT",
   "ED FORMuMEDIAL FORMuWITH DOT ABOVEzaSMALL VtEHv FINAL FORMwINITIAL FORMxSOLATED FORMwMEDIAL FO",
   "RMpEHr FINAL FORMsINITIAL FORMtSOLATED FORMsMARBUTAza FINAL FORMzbGOALzbISOLATED FORMtEDIAL FO",
   "RMsWITH RINGxSMALL TEH ABOVEzeVxTHREE DOTS ABOVE DOWNWARDSrEHt FINAL FORMuINITIAL FORMvSOLATED",
   " FORMuMEDIAL FORMpHALs FINAL FORMtISOLATED FORMqEHs FINAL FORMtINITIAL FORMuSOLATED FORMtMEDIA",
   "L FORMqIN YEHpTEHs FINAL FORMtINITIAL FORMuSOLATED FORMtMEDIAL FORMtWITH SMALL VsEHu FINAL FOR",
   "MvINITIAL FORMwSOLATED FORMvMEDIAL FORMoUp FINAL FORMqISOLATED FORMqWITH HAMZA ABOVEzh ISOLATE",
   "D FORMpIGHUR KAZAKH KIRGHIZ ALEF MAKSURA INITIAL FORMzyMEDIAL FORMoVEq FINAL FORMrISOLATED FOR",
   "MqHr FINAL FORMsINITIAL FORMtSOLATED FORMsMEDIAL FORMoWAWr FINAL FORMsISOLATED FORMsWITH DOT A",
   "BOVEzcWITHINxEXTENDED ARABIC-INDIC DIGIT THREE ABOVEzzcWO ABOVExHAMZA ABOVEzj FINAL FORMzkISOL",
   "ATED FORMxRINGxTWO DOTS ABOVEoYEHr BARREEy FINAL FORMzaISOLATED FORMzaWITH EXTENDED ARABIC-IND",
   "IC DIGIT THREE ABOVEzzjWO ABOVEzfHAMZA ABOVEzq FINAL FORMzrISOLATED FORMsFINAL FORMsINITIAL FO",
   "RMtSOLATED FORMsMEDIAL FORMsWITH HAMZA ABOVEzj FINAL FORMzkINITIAL FORMzlSOLATED FORMzkMEDIAL ",
   "FORMxSMALL VxTAILyHREE DOTS BELOWyWO DOTS BELOW AND DOT ABOVEzrHAMZA ABOVEzrSMALL NOON ABOVEpU",
   "q FINAL FORMrISOLATED FORMoZAHr FINAL FORMsINITIAL FORMtSOLATED FORMsMEDIAL FORMqINs FINAL FOR",
   "MtISOLATED FORMtWITH INVERTED V ABOVEiIGATURE AIN WITH ALEF MAKSURA FINAL FORMznISOLATED FORMz",
   "aJEEM INITIAL FORMzgSOLATED FORMzfWITH MEEM FINAL FORMzpINITIAL FORMzaMEEM INITIAL FORMzgSOLAT",
   "ED FORMzfWITH ALEF MAKSURA FINAL FORMzkMEEM FINAL FORMzpINITIAL FORMzkYEH FINAL FORMzaYEH FINA",
   "L FORMzeISOLATED FORMrKBAR ISOLATED FORMrLAYHAA AS-SALAAMvE ISOLATED FORMvI AS-SALAAMzgTU WAS-",
   "SALAAMwM AS-SALAAMxAA AS-SALAAMsEF MAKSURA WITH SUPERSCRIPT ALEF FINAL FORMzzbISOLATED FORMvWI",
   "TH FATHATAN FINAL FORMzkISOLATED FORMsLAH ISOLATED FORMrZZA WA JALLqBEH WITH ALEF MAKSURA FINA",
   "L FORMznISOLATED FORMzaHAH INITIAL FORMzfSOLATED FORMzeWITH YEH FINAL FORMzbEH INITIAL FORMzeM",
   "EDIAL FORMzaJEEM INITIAL FORMzgSOLATED FORMzaKHAH INITIAL FORMzgSOLATED FORMzfWITH YEH FINAL F",
   "ORMzaMEEM FINAL FORMzfINITIAL FORMzgSOLATED FORMzfMEDIAL FORMzaNOON FINAL FORMzaREH FINAL FORM",
   "zaYEH FINAL FORMzeISOLATED FORMzaZAIN FINAL FORMrISMILLAH AR-RAHMAN AR-RAHEEMqDAD WITH ALEF MA",
   "KSURA FINAL FORMznISOLATED FORMzaHAH INITIAL FORMzfSOLATED FORMzeWITH ALEF MAKSURA FINAL FORMz",
   "jYEH FINAL FORMzaJEEM INITIAL FORMzgSOLATED FORMzaKHAH INITIAL FORMzgSOLATED FORMzfWITH MEEM F",
   "INAL FORMzpINITIAL FORMzaMEEM INITIAL FORMzgSOLATED FORMzaREH FINAL FORMzeISOLATED FORMzaYEH F",
   "INAL FORMzeISOLATED FORMqFEH WITH ALEF MAKSURA FINAL FORMznISOLATED FORMzaHAH INITIAL FORMzfSO",
   "LATED FORMzaJEEM INITIAL FORMzgSOLATED FORMzaKHAH INITIAL FORMzgSOLATED FORMzfWITH MEEM FINAL ",
   "FORMzpINITIAL FORMzaMEEM INITIAL FORMzgSOLATED FORMzfWITH YEH FINAL FORMzaYEH FINAL FORMzeISOL",
   "ATED FORMqGHAIN WITH ALEF MAKSURA FINAL FORMzpISOLATED FORMzcJEEM INITIAL FORMziSOLATED FORMzc",
   "MEEM INITIAL FORMziSOLATED FORMzhWITH ALEF MAKSURA FINAL FORMzmMEEM FINAL FORMzmYEH FINAL FORM",
   "zcYEH FINAL FORMzgISOLATED FORMqHAH WITH ALEF MAKSURA FINAL FORMznISOLATED FORMzaJEEM INITIAL ",
   "FORMzgSOLATED FORMzfWITH YEH FINAL FORMzaMEEM INITIAL FORMzgSOLATED FORMzfWITH ALEF MAKSURA FI",
   "NAL FORMzkYEH FINAL FORMzaYEH FINAL FORMzeISOLATED FORMrEH WITH ALEF MAKSURA ISOLATED FORMzaJE",
   "EM INITIAL FORMzgSOLATED FORMzaMEEM INITIAL FORMzgSOLATED FORMzfWITH JEEM INITIAL FORMzkMEEM I",
   "NITIAL FORMzaSUPERSCRIPT ALEF INITIAL FORMzaYEH ISOLATED FORMqJALLAJALALOUHOUrEEM WITH ALEF MA",
   "KSURA FINAL FORMzoISOLATED FORMzbHAH INITIAL FORMzgSOLATED FORMzfWITH ALEF MAKSURA FINAL FORMz",
   "kYEH FINAL FORMzbMEEM INITIAL FORMzhSOLATED FORMzgWITH ALEF MAKSURA FINAL FORMzlHAH FINAL FORM",
   "zpINITIAL FORMzlYEH FINAL FORMzbYEH FINAL FORMzfISOLATED FORMqKAF WITH ALEF FINAL FORMzfISOLAT",
   "ED FORMzfMAKSURA FINAL FORMznISOLATED FORMzaHAH INITIAL FORMzfSOLATED FORMzaJEEM INITIAL FORMz",
   "gSOLATED FORMzaKHAH INITIAL FORMzgSOLATED FORMzaLAM FINAL FORMzeINITIAL FORMzfSOLATED FORMzeME",
   "DIAL FORMzaMEEM FINAL FORMzfINITIAL FORMzgSOLATED FORMzfMEDIAL FORMzfWITH MEEM FINAL FORMzpINI",
   "TIAL FORMzkYEH FINAL FORMzaYEH FINAL FORMzeISOLATED FORMrHAH WITH ALEF MAKSURA FINAL FORMzoISO",
   "LATED FORMzbHAH ISOLATED FORMzbJEEM INITIAL FORMzhSOLATED FORMzbMEEM INITIAL FORMzhSOLATED FOR",
   "MzbYEH FINAL FORMzfISOLATED FORMqLAM WITH ALEF FINAL FORMzfISOLATED FORMzfMAKSURA FINAL FORMzn",
   "ISOLATED FORMzfWITH HAMZA ABOVE FINAL FORMzwISOLATED FORMzqBELOW FINAL FORMzwISOLATED FORMzkMA",
   "DDA ABOVE FINAL FORMzwISOLATED FORMzaHAH INITIAL FORMzfSOLATED FORMzeWITH ALEF MAKSURA FINAL F",
   "ORMzjMEEM FINAL FORMzoINITIAL FORMzjYEH FINAL FORMzbEH INITIAL FORMzaJEEM INITIAL FORMzgSOLATE",
   "D FORMzfWITH JEEM FINAL FORMzpINITIAL FORMzkMEEM FINAL FORMzpINITIAL FORMzkYEH FINAL FORMzaKHA",
   "H INITIAL FORMzgSOLATED FORMzfWITH MEEM FINAL FORMzpINITIAL FORMzaMEEM FINAL FORMzfINITIAL FOR",
   "MzgSOLATED FORMzfMEDIAL FORMzfWITH HAH FINAL FORMzoINITIAL FORMzkYEH FINAL FORMzaYEH FINAL FOR",
   "MzeISOLATED FORMqMEEM WITH ALEF FINAL FORMzgMAKSURA ISOLATED FORMzbHAH INITIAL FORMzgSOLATED F",
   "ORMzfWITH JEEM INITIAL FORMzkMEEM INITIAL FORMzkYEH FINAL FORMzbJEEM INITIAL FORMzhSOLATED FOR",
   "MzgWITH HAH INITIAL FORMzlKHAH INITIAL FORMzlMEEM INITIAL FORMzlYEH FINAL FORMzbKHAH INITIAL F",
   "ORMzhSOLATED FORMzgWITH JEEM INITIAL FORMzlMEEM INITIAL FORMzlYEH FINAL FORMzbMEEM FINAL FORMz",
   "gINITIAL FORMzhSOLATED FORMzgWITH YEH FINAL FORMzbYEH ISOLATED FORMrOHAMMAD ISOLATED FORMqNOON",
   " WITH ALEF MAKSURA FINAL FORMzoISOLATED FORMzbHAH INITIAL FORMzgSOLATED FORMzfWITH ALEF MAKSUR",
   "A FINAL FORMzkMEEM INITIAL FORMzkYEH FINAL FORMzcEH INITIAL FORMzfMEDIAL FORMzbJEEM INITIAL FO",
   "RMzhSOLATED FORMzgWITH ALEF MAKSURA FINAL FORMzlHAH FINAL FORMzpINITIAL FORMzlMEEM FINAL FORMz",
   "qINITIAL FORMzlYEH FINAL FORMzbKHAH INITIAL FORMzhSOLATED FORMzbMEEM FINAL FORMzgINITIAL FORMz",
   "hSOLATED FORMzgMEDIAL FORMzgWITH ALEF MAKSURA FINAL FORMzlYEH FINAL FORMzbNOON FINAL FORMzbREH",
   " FINAL FORMzbYEH FINAL FORMzfISOLATED FORMzbZAIN FINAL FORMqQAF WITH ALEF MAKSURA FINAL FORMzn",
   "ISOLATED FORMzaHAH INITIAL FORMzfSOLATED FORMzaMEEM INITIAL FORMzgSOLATED FORMzfWITH HAH FINAL",
   " FORMzoINITIAL FORMzkMEEM FINAL FORMzkYEH FINAL FORMzaYEH FINAL FORMzeISOLATED FORMsLA USED AS",
   " KORANIC STOP SIGN ISOLATED FORMrUDDISA SIRRAHqRADI ALLAAHU ANHzhAAzhUMzjAAziNNAsHIMAHU ALLAAH",
   "yM ALLAAHsSOUL ISOLATED FORMrEH WITH SUPERSCRIPT ALEF ISOLATED FORMqSAD WITH ALEF MAKSURA FINA",
   "L FORMznISOLATED FORMzaHAH INITIAL FORMzfSOLATED FORMzeWITH HAH FINAL FORMznINITIAL FORMzjYEH ",
   "FINAL FORMzaKHAH INITIAL FORMzaMEEM INITIAL FORMzgSOLATED FORMzfWITH MEEM FINAL FORMzpINITIAL ",
   "FORMzaREH FINAL FORMzeISOLATED FORMzaYEH FINAL FORMzeISOLATED FORMsLAAMUHU ALAYNAAuM ISOLATED ",
   "FORMtLA ISOLATED FORMwUSED AS KORANIC STOP SIGN ISOLATED FORMvLLAAHU ALAYHI WA-AALIHyHOU ALAYH",
   "E WASALLAMzaU ALAYHI WAAALIHEE WA-SALLAMrEEN WITH ALEF MAKSURA FINAL FORMzoISOLATED FORMzbHAH ",
   "INITIAL FORMzgSOLATED FORMzfMEDIAL FORMzfWITH JEEM INITIAL FORMzcEH INITIAL FORMzfMEDIAL FORMz",
   "bJEEM INITIAL FORMzhSOLATED FORMzgMEDIAL FORMzgWITH ALEF MAKSURA FINAL FORMzlHAH INITIAL FORMz",
   "bKHAH INITIAL FORMzhSOLATED FORMzgMEDIAL FORMzgWITH ALEF MAKSURA FINAL FORMzlYEH FINAL FORMzbM",
   "EEM INITIAL FORMzhSOLATED FORMzgMEDIAL FORMzgWITH HAH FINAL FORMzpINITIAL FORMzlJEEM INITIAL F",
   "ORMzlMEEM FINAL FORMzqINITIAL FORMzbREH FINAL FORMzfISOLATED FORMzbYEH FINAL FORMzfISOLATED FO",
   "RMrHADDA WITH DAMMA ISOLATED FORMzjMEDIAL FORMziTAN ISOLATED FORMzdFATHA ISOLATED FORMzjMEDIAL",
   " FORMzdKASRA ISOLATED FORMzjMEDIAL FORMziTAN ISOLATED FORMzdSUPERSCRIPT ALEF ISOLATED FORMsEEN",
   " WITH ALEF MAKSURA FINAL FORMzpISOLATED FORMzcHAH FINAL FORMzgINITIAL FORMzhSOLATED FORMzgMEDI",
   "AL FORMzgWITH MEEM FINAL FORMzqINITIAL FORMzlYEH FINAL FORMzdEH INITIAL FORMzgMEDIAL FORMzcJEE",
   "M FINAL FORMzhINITIAL FORMziSOLATED FORMzhMEDIAL FORMzhWITH YEH FINAL FORMzcKHAH FINAL FORMzhI",
   "NITIAL FORMziSOLATED FORMzhMEDIAL FORMzcMEEM FINAL FORMzhINITIAL FORMziSOLATED FORMzhMEDIAL FO",
   "RMzhWITH KHAH FINAL FORMzrINITIAL FORMzmMEEM FINAL FORMzrINITIAL FORMzcREH FINAL FORMzgISOLATE",
   "D FORMzcYEH FINAL FORMzgISOLATED FORMrUBHAANAHU WA TAAALAAqTABAARAKA WA-TAAALAAsH WITH ALEF MA",
   "KSURA FINAL FORMznISOLATED FORMzaHAH INITIAL FORMzfSOLATED FORMzaMEEM INITIAL FORMzgSOLATED FO",
   "RMzfMEDIAL FORMzfWITH HAH FINAL FORMzoINITIAL FORMzkMEEM INITIAL FORMzkYEH FINAL FORMzaYEH FIN",
   "AL FORMzeISOLATED FORMrEH WITH ALEF MAKSURA FINAL FORMznISOLATED FORMzaHAH INITIAL FORMzfSOLAT",
   "ED FORMzeWITH JEEM FINAL FORMzoINITIAL FORMzjMEEM INITIAL FORMzbEH INITIAL FORMzeMEDIAL FORMza",
   "JEEM INITIAL FORMzgSOLATED FORMzfWITH ALEF MAKSURA FINAL FORMzkMEEM INITIAL FORMzkYEH FINAL FO",
   "RMzaKHAH INITIAL FORMzgSOLATED FORMzfWITH ALEF MAKSURA FINAL FORMzkMEEM INITIAL FORMzkYEH FINA",
   "L FORMzaMEEM FINAL FORMzfINITIAL FORMzgSOLATED FORMzfMEDIAL FORMzfWITH ALEF MAKSURA FINAL FORM",
   "zkHAH INITIAL FORMzkJEEM INITIAL FORMzkKHAH INITIAL FORMzkYEH FINAL FORMzaNOON FINAL FORMzaREH",
   " FINAL FORMzaYEH FINAL FORMzeISOLATED FORMzaZAIN FINAL FORMrHAL WITH SUPERSCRIPT ALEF ISOLATED",
   " FORMsEH WITH ALEF MAKSURA FINAL FORMzoISOLATED FORMzbHEH MEDIAL FORMzbJEEM ISOLATED FORMzbMEE",
   "M FINAL FORMzgINITIAL FORMzhSOLATED FORMzgMEDIAL FORMzbNOON FINAL FORMzbREH FINAL FORMzbYEH FI",
   "NAL FORMzfISOLATED FORMzbZAIN FINAL FORMqUIGHUR KIRGHIZ YEH WITH HAMZA ABOVE WITH ALEF MAKSURA",
   " FINAL FORMzzuINITIAL FORMzzvSOLATED FORMqWASALLAM ISOLATED FORMqYEH WITH ALEF MAKSURA FINAL F",
   "ORMznISOLATED FORMzaHAH INITIAL FORMzfSOLATED FORMzeWITH YEH FINAL FORMzcMZA ABOVE WITH AE FIN",
   "AL FORMzuISOLATED FORMzsLEF FINAL FORMzwISOLATED FORMzwMAKSURA FINAL FORMzzfISOLATED FORMzrE F",
   "INAL FORMztINITIAL FORMzuSOLATED FORMzrHAH INITIAL FORMzwSOLATED FORMzsEH INITIAL FORMzvMEDIAL",
   " FORMzrJEEM INITIAL FORMzxSOLATED FORMzrKHAH INITIAL FORMzrMEEM FINAL FORMzwINITIAL FORMzxSOLA",
   "TED FORMzwMEDIAL FORMzrNOON FINAL FORMzrOE FINAL FORMzuISOLATED FORMzrREH FINAL FORMzrU FINAL ",
   "FORMztISOLATED FORMzrWAW FINAL FORMzvISOLATED FORMzrYEH FINAL FORMzvISOLATED FORMzsU FINAL FOR",
   "MzuISOLATED FORMzrZAIN FINAL FORMzbEH INITIAL FORMzeMEDIAL FORMzaJEEM INITIAL FORMzgSOLATED FO",
   "RMzfWITH YEH FINAL FORMzaKHAH INITIAL FORMzgSOLATED FORMzaMEEM FINAL FORMzfINITIAL FORMzgSOLAT",
   "ED FORMzfMEDIAL FORMzfWITH MEEM FINAL FORMzpINITIAL FORMzkYEH FINAL FORMzaNOON FINAL FORMzaREH",
   " FINAL FORMzaYEH FINAL FORMzeISOLATED FORMzaZAIN FINAL FORMqZAH WITH MEEM INITIAL FORMzgSOLATE",
   "D FORMzfMEDIAL FORMhMADDA WAAJIBmH ABOVEjRK NOON GHUNNAmSIDEWAYS NOON GHUNNAjTHEMATICAL AINvLE",
   "FuBEHuDADwLvOTLESS BEHzdFEHzdNOONzdQAFwUBLE-STRUCK AINzjBEHzjDADzlLzjFEHzjGHAINzjHAHzjJEEMzjKH",
   "AHzjLAMzjMEEMzjNOONzjQAFzjREHzjSADzkEENzkHEENzjTAHzkEHzkHALzlEHzjWAWzjYEHzjZAHzlINuFEHuGHAINuH",
   "AHuINITIAL AINzdBEHzdDADzdFEHzdGHAINzdHAHzeEHzdJEEMzdKAFzeHAHzdLAMzdMEEMzdNOONzdQAFzdSADzeEENz",
   "eHEENzdTEHzeHEHzdYEHuJEEMuKAFvHAHuLAMvOOPED AINzdLEFzcBEHzcDADzeLzcFEHzcGHAINzcHAHzdEHzcJEEMzc",
   "KHAHzcLAMzcMEEMzcNOONzcQAFzcREHzcSADzdEENzdHEENzcTAHzdEHzdHALzeEHzcWAWzcYEHzcZAHzeINuMEEMuNOON",
   "uOPERATOR HAH WITH DALzeMEEM WITH HAH WITH TATWEELuQAFuREHuSADvEENvHEENvTRETCHED AINzfBEHzfDAD",
   "zgOTLESS BEHznFEHzfFEHzfGHAINzfHAHzgEHzfJEEMzfKAFzgHAHzfMEEMzfNOONzfQAFzfSADzgEENzgHEENzfTAHzg",
   "EHzgHEHzfYEHzfZAHuTAHwILED AINzcDADzdOTLESS NOONzkQAFzcGHAINzcHAHzcJEEMzcKHAHzcLAMzcNOONzcQAFz",
   "cSADzdEENzdHEENzcYEHvEHvHALwEHuWAWuYEHuZAHwINhNUMBER MARK ABOVEoSIGNhOPEN DAMMATANmFATHATANmKA",
   "SRATANhPERCENT SIGNiIASTRE MARK ABOVEiLACE OF SAJDAHiOETIC VERSE SIGNjUND MARK ABOVEhQUESTION ",
   "MARKhRAISED ROUND DOTjYiEVERSED DAMMAiIGHT ARROWHEAD ABOVEzd WITH DOTxBELOWiOUNDED HIGH STOP W",
   "ITH FILLED CENTREhSEMICOLONiHADDAn ISOLATED FORMoMEDIAL FORMiIGN ALAYHE ASSALLAMmMISRAmRADI AL",
   "LAHOU ANHUoHMATULLAH ALAYHEmSAFHAoLLALLAHOU ALAYHE WASSALLAMoMVAToNAHnINDHI AMPERSANDtPOSTPOSI",
   "TION MENmTAKHALLUSiMALL DAMMAnFARSI YEHpTHAnHIGH AINsDOTLESS HEAD OF KHAHsFARSI YEHtOOTNOTE MA",
   "RKERsJEEMsLAM ALEFtIGATURE ALEF WITH LAM WITH YEHzcQAF WITH LAM WITH ALEF MAKSURAzcSAD WITH LA",
   "M WITH ALEF MAKSURAsMADDAtEEM INITIAL FORMySOLATED FORMsNOONw WITH KASRAsQAFsROUNDED ZEROsSADt",
   "EENtIGN SAFHAsTAHtHREE DOTSsUPRIGHT RECTANGULAR ZEROsWAWtORD AL-JUZyN-NISFyR-RUByS-SAJDAyTH-TH",
   "ALATHAxQIFxSAHzaKTAxWAQFAsYEHv BARREE WITH TWO DOTS BELOWsZAHuINnKASRAnLOW MEEMrNOON WITH KASR",
   "ArSEENrWAWsORD IMAALAxSHMAAMwTASHEELnWAWnYEHiTART OF RUB EL HIZBiUBSCRIPT ALEFjKUNm BELOWnISOL",
   "ATED FORMnMEDIAL FORMjPERSCRIPT ALEF MOKHASSASiYMBOL DOT ABOVEsBELOWqUBLE VERTICAL BAR BELOWoF",
   "OUR DOTS ABOVEyBELOWoRINGoSMALL TAH ABOVEyBELOWoTHREE DOTS ABOVEzaBELOWzaPOINTING DOWNWARDS AB",
   "OVEztBELOWpWO DOTS ABOVExBELOWxVERTICALLY ABOVEzjBELOWoWASLA ABOVEhTAIL FRAGMENTjTWEELo WITH F",
   "ATHATAN ABOVEuOVERSTRUCK HAMZAzgWAWuTWO DOTS BELOWiHOUSANDS SEPARATORiONE LOOP ABOVErBELOWmONE",
   " DOT ABOVEuBELOWmTWO DOTS ABOVEvBELOWiRIPLE DOT PUNCTUATION MARKiURNED DAMMA BELOWhVERTICAL TA",
   "ILiOWEL SIGN DOT BELOWsINVERTED SMALL V ABOVEsSMALL V ABOVEhWAVY HAMZA BELOWhZWARAKAYg-INDIC C",
   "UBE ROOTnDIGIT EIGHTtFIVEuOURtNINEtONEtSEVENuIXtTHREEuWOtZEROnFOURTH ROOTnPER MILLE SIGNrTEN T",
   "HOUSAND SIGNcCcIEScMENIAN ABBREVIATION MARKkPOSTROPHEjCAPITAL LETTER AYByBENyCAzaHAzbEHzaOyDAy",
   "ECHzaHzaTyFEHyGHADzaIMyHOyINIyJAzaHEHyKEHzbNyLIWNyMENyNOWyOHyPEHzaIWRyRAzaEHySEHzaHAyTIWNzaOyV",
   "EWzaOyXEHyYIzbWNyZAzaHEkOMMAjDRAM SIGNjEMPHASIS MARKkXCLAMATION MARKjFULL STOPjHYPHENjMODIFIER",
   " LETTER LEFT HALF RINGjQUESTION MARKjSMALL LETTER AYBwBENwCAxHAyEHxOwDAwECHxHxTwFEHwGHADxIMwHO",
   "wINIwJAxHEHwKEHyNwLIWNwMENwNOWwOHwPEHxIWRwRAxEHwSEHxHAwTIWNxOxURNED AYBwVEWxOwXEHwYIy WITH STR",
   "OKEyWNwZAxHEqIGATURE ECH YIWNyMEN ECHzdINIzdNOWzdXEHyVEW NOWcROW POINTING DOWNWARDS THEN CURVI",
   "NG LEFTWARDSznRIGHTWARDSpRIGHTWARDS THEN CURVING DOWNWARDSzoSOUTH WESTzoUPWARDSpUPWARDS THEN N",
   "ORTH WESTfHEAD-SHAPED POINTERcTICULATED LORRYeST PALETTEbSCENDING NODEdIA SYMBOLcSERTIONcTERIS",
   "Ki OPERATORhMdONISHED FACEdRAEAeONOMICAL SYMBOL FOR URANUScYMPTOTICALLY EQUAL TObTHLETIC SHOEc",
   "OM SYMBOLbUBERGINEcSTRAL SIGNcTO RICKSHAWeMATED TELLER MACHINEfOBILEbVESTAN ABBREVIATION MARKi",
   "LETTER AqArNrOqErEqNqOpBEqHEpCEpDEqHEpEqEpFEpGEqGEqHEpHEqMEpIqIpJEpKEpLEpMEpNEqGErVErYEqNEqYEp",
   "OqOpPEpREpSEqHErYEqSHEpTEqHEqTEpUqUpVEpXEqVEqYEpYEqYEpZEqHEcOCADObXEaBABYe ANGELfBOTTLEfCHICKf",
   "SYMBOLcCK OF ENVELOPEfWITH LEFTWARDS ARROW ABOVEe-TILTED SHADOWED WHITE RIGHTWARDS ARROWeSLANT",
   "ED SOUTH ARROW WITH HOOKED TAILzgRIZONTAL TAILfPACEdONdTRIAN CAMELcDGERdMINTON RACQUET AND SHU",
   "TTLECOCKcGELdGAGE CLAIMdUETTE BREADcLINESE ADEG ADEGjCARIK PAMUNGKAHrRERENpSIKIjDIGIT EIGHTpFI",
   "VEqOURpNINEpONEpSEVENqIXpTHREEqWOpZEROjLETTER AIKARArKARAv TEDUNGrRCHAIC JNYArSYURA SASAKqBAs ",
   "KEMBANGqCAs LACAqDAs MADUuURDA ALPAPRANAzaMAHAPRANAqEF SASAKrKARAqGAs GORAqHAqIKARAv TEDUNGqJA",
   "s JERAqKAs MAHAPRANAsF SASAKrHOT SASAKqLAs LENGAy TEDUNGqMAqNAs RAMBATrGArYAqOKARAv TEDUNGqPAs",
   " KAPALqRAs REPAx TEDUNGqSAs SAGAvPAqTAs LATIKtMURDA MAHAPRANAtTAWArZIR SASAKqUKARAv TEDUNGqVE ",
   "SASAKqWAqYAqZAL SASAKjMUSICAL SYMBOL COMBINING BENDEzjENDEPzjGONGzjJEGOGANzjKEMPLIzp WITH JEGO",
   "GANznULzp WITH JEGOGANzjTEGEHyDAENGzbINGzbNGzd GEDEzeSURANGzaENGzbUNGzaINGzaONGzaUNGyLEFT-HAND",
   " CLOSED PLAKzsUKzjOPEN PANGzpINGzpUNGyRIGHT-HAND CLOSED TAKzsUKzkOPEN DAGzqUGjPAMADAp LANTANGm",
   "ENENGlNTIo LANTANGjSIGN BISAHoCECEKoREREKANoSURANGoULU CANDRAsRICEMjVOWEL SIGN LA LENGAzd TEDU",
   "NGuPEPETza TEDUNGuRA REPAzc TEDUNGuSUKUy ILUTuTALINGzb REPAzg TEDUNGzcTEDUNGvEDUNGuULUx SARIjW",
   "INDUdL OF YARNeET SHOESeOONh-SPOKED ASTERISKfT BOLD SCRIPT XjXk WITH BALLOTrOLD CHECKvSCRIPT X",
   "qCHECKqLIGHT XqSCRIPT XqXhSCRIPT XhXcMUM COLONiMBINING MARK KOQNDONvTUKWENTISjMAgFULL STOPgLET",
   "TER AnEEnFAAMAEoEEoOMoUnInKAoENpTpUXoIoOpGHOMpVUUoPAoUoYEEnLAoEEEEoIoOQoUnMoAoBAApENoEEEEpNoIo",
   "OoUnNAoDAAoGApGApKWAENoIoJAEMpEEpUAEoSHAoTEEpUUoUpAEoYInOnPAoEEpUXoHASE-A FIRIvGBIEE FONwHEUAE",
   "GHEUAEzcRAEvKAFAxQwETxUKEUTNDAwPOQwUOQvLAPAQwET KUTwOMMAEwUxAEPvMAEKEUPyMzaBGBIEEzaKPENzaVEUXy",
   "NYIySIxNSUAExP PIEETwBANYIyQwEUNJOMNDEUQwGBASAwON NGGEUAETxOMEUTzaPUQwVEUAENGAMvNAA MFONxQwDA ",
   "LEERAEWAyANGGEUAETwENwGANGUxGENxKUE MFONzbNZEUMwIKAwJAMwKAARAExINDIwSHAyIEEwTAPza MFAAzbNTAAxO",
   "QPENwYETxIyT MONGKEUAEQwZA MFONxUN MEUTvPA LEERAEWAxAMyRAExMSHAExSHAEwETwON MFON PIPAEMBAzlGBI",
   "EEzaPA NJI PIPAEMBAznGBIEEwUPvROMvSEUNYAMwHINDA PA NJIyRAExOQ NSHUT YUMxUENSHUETyMwISAwONJAMxQ",
   "xTwUUvTEUAENyTEUWENwITA MFONwU MAEMBAxAEPvU YUQ NAEwNKNOWNvVEEtB FEExUXvGHEUGHENzdUAEMvKAMwEUA",
   "EMyPUQyYEUXwIEEMxQvLAANAExM NSHUT NYAMwETwOM NTEUMvMAx NJEUAENAzbUQAwBA MAELEEyARAExEURIxIT MB",
   "AAKETxUOQwEUQyT NGGEETwFIYAQxON TEUAEQwONTIEENvNDU NJAAwGGAAMyEU MBUyUOQzc LARGExKINDI MVOPxOM",
   "wSENxHUETwTIEE SHEUOQwYAEMAExI NTEUMvPARUMwEESHIwITwUNGAAMvSAKEUAEwET TUwHET NJAQyUAEQTUwIEEwU",
   "EvTAAMwU MAEMGBIEEyNSIEEvVEUMvWUAETvYAFU LEERAEWAwEURAEtC BUNGvFUEvGBAYIwHAPyRAEvKAAwEN FATIGU",
   "EzaLAWxTxUKAQyMySEUXzaHEUAEPwPARAQwUOP NKAARAExTvLAMxPwIQwUvMA KEUAERIyNSIEExEMBAySIwBAA CABBA",
   "GE-TREEzbPICKETyNYIxEEKEETyRAEyUMzaXxIyRIEENyTxUAEMyEwGBASAQwIEEwUAEvNANSANAQxQwDAMyPxEUAEREEz",
   "aTxIDAxOMBUwGAQxGENyUzaAEN NYAMzaEETzaMzaONxKAQyUE MAEMBAxOMwJAEMyMxEEEEyUXxUEQwSAxEUAENxHAQxO",
   "MxUNyOT NGOMwTAAxENyUNGBAxU MBITwYIR MKPARAQ MEUNwZAxEUMvPENwINxRIEENvRUvSETFONxUXwHIQxUEQwUAE",
   "TvTAASHAEwETxUTEUXwITA YUEyUAEPvVEUAEPENyXvWANGKUOQwUPvYAAwEUQwU MUOMAExMxWOQtD FAAwEUFEUAETvG",
   "HAAxEUAEvKETxUAETMEUNyMyOT MBUAEyPwUxNxOMxQwWAETwYEEvLEEEExTxUAEPyMwIEEwOQwUMvMwAENJETxLEERIwB",
   "AAza SEVENxUOwEEEExUNyTwFEUAEzaTxIEExOyNwGBEUNyIEEyOFUMwONIwUwVOPvNDAMxEEyUXxONwGGAAMzcAEzaPyE",
   "UXyUOMyWAENxKAPyEUAEQzbRIyIEEyUNyYEEwIwJAPxEUAEMzaTxIyEExUEQwSHEEyUTxIEEPzbTxUMwTEEyUMxUUwUwYA",
   "MxETxIxUEvPAPwEExUTAEwIPwUQxUTvRAEMwEN MUCHzaOLDwIIvSAPxQwEUAEQwHEEyUAEzaXxIIxOQxUwOTwUAExExUv",
   "TAEwEEEExUAENyNyTwIwOQwUxOTvWAPwUAENvYAEMMAEwENwUOMyPxWOQtE AvFAxQwEEwOMwU CALLyIyREMEDYxEyTvG",
   "BETyUXwHAAMAExETyUAEzaNzaXxOMvIvKETxUAEyXwIwOwPEUXwUETxOPxTvLAAMxPxQwEUAEMwOMxONyTxQwUvMAxEyMx",
   "PxQwBEEyUMwENwFEUQwGBAyENwIxEEwONwUAEwVIvNAxEwDAA MY HOUSEzbSOFTNESSyPxIAQyQxUNwGAxEUREUTxGEEE",
   "EzaUAEzdTyUAESHAE NYAMzaPzaRAExKAzaAMIyEUAEMzbXyUMzaPxOPyQxUAEzbTwJAEMLIxEEza EPOCHyUXwKOMwSHI",
   "EEyUEzaOPwTAPxUMwYI BETWEENzaCLEAVERwZAQxUQvOvPA PEOPLEzaLURALxAyMwEEMxUTyXwIxEEQyTwOxONwUxAEy",
   "QxExMvRAExQwEUXwIMGBAvSAAwEExTwHEUAEQxIQxOyQwOMwUAENvTAAyQxEN NTEUMxMxQwENxUyAEQwOOyNxQwUAExMy",
   "AEvVEExUAEwOMvWEUXwUExOvYAPwEUAEzbTyMyXwIEExTwOQ COVERzaSWIMMINGwUAENxEQxNxQtF EEvFOMvKAwENxTw",
   "OwPAwUwYEEvLAwIwOQvMwAwBAAxENwEEEEwOvNDAAwGGAxKWAENwIwJAEMxUAEwSHAwTEEwUxAEwYIvPEExUXwUAEvREEx",
   "NxUXwIEExIwUvSAMBAwEUXwHIIxOxUwIwUUvTAAxEwETvUvVUEQvWAwUEvYAwOQoIoUAEpEnRAEoEEpNpUXoIEEpIoUnSA",
   "MBAoEUXoHEUXpIIpOpUoIoUUnTAApEoENpToInUnWAoUEnYAoOQoUQgNJAEMLIgQUESTION MARKgSEMICOLONcNANAdJO",
   "dKeNOTE WITH DOLLAR SIGNoEURO SIGNoPOUND SIGNoYEN SIGNcR CHARTeOF SOAPdBER POLEcSEBALLdKETgBAL",
   "L AND HOOPdSA VAH COMBINING HIGH TONEy-LOW TONEuLOW TONEx-MID TONEuMID TONEkFULL STOPkLETTER A",
   "rBArCErDHIIsOrEsEsNNIrFArGAHsBUrHWAHrIrJOrKAsPAHrMBErOsOrPArSErTOrUsWUrVUrWAtDDArYEINsIErZOcTd",
   "AK CONSONANT SIGN HvNGgLETTER AnBAnCAnDAnGAnHAnInJAnKARO BAnLAnMApNDAILING HAyNAySAoBAnNAoDAoG",
   "AoORTHERN TAoYAnPApKPAK WAnRAnSAoIMALUNGUN AyGAyHAyLAyMAyPAyRAySAyWAyYAoOUTHERN TAnUnWAnYAgPAN",
   "GOLATjONGONANgSIGN TOMPIhYMBOL BINDU JUDULtNA METEKtPANGOLATuINARBORASgVOWEL SIGN EsErIrKARO I",
   "wOrOrPAKPAK ErUs FOR SIMALUNGUN SAdHeTUBdTERYbEACH WITH UMBRELLAdMED ASCENDING MUSICAL NOTEShD",
   "ESCENDING MUSICAL NOTEShEIGHTH NOTEShSIXTEENTH NOTESdNSdR FACEeDED PERSONdTING HEARTdVERcCAUSE",
   "cDcER MUGdTLEcLdLe PEPPERfSYMBOLfWITH CANCELLATION STROKEeHOP BELLcNGALI ABBREVIATION SIGNjNJI",
   "jU LENGTH MARKiCURRENCY DENOMINATOR SIXTEENrNUMERATOR FOURzcONEzf LESS THAN THE DENOMINATORzcT",
   "HREEzdWOiDIGIT EIGHToFIVEpOURoNINEoONEoSEVENpIXoTHREEpWOoZEROiGANDA MARKiISSHARiLETTER AqAqIqU",
   "pBAqHApCAqHApDAqDArHAqHApEpGAqHApHApIqIpJAqHApKAqHAsNDA TApLApMApNAqGAqNAqYApOpPAqHApRAr WITH ",
   "LOWER DIAGONALxMIDDLE DIAGONALqHAqRApSAqHAqSApTAqHAqTArHApUqUpVEDIC ANUSVARAqOCALIC LyLxRyRpYA",
   "qYAiRUPEE MARKoSIGNiSANDHI MARKjIGN ANUSVARAoVAGRAHAnCANDRABINDUnNUKTAnVIRAMApSARGAiVOWEL SIGN",
   " AAuIuUtEtIuItOtUuUtVOCALIC LzdLzcRzdRdT ARROW POINTING DOWNWARDS THEN NORTH EASTeO BOXdZENE R",
   "INGm WITH CIRCLEcT SYMBOLdWEENcVERAGE BOXbHAIKSUKI DANDAlIGIT EIGHTqFIVErOURqNINEqONEqSEVENrIX",
   "qTHREErWOqZEROlOUBLE DANDAkGAP FILLER-1v2kHUNDREDS UNIT MARKkLETTER AsAsIsUrBAsHArCAsHArDAsDAt",
   "HAsHArErGAsHArHArIsIrJAsHArKAsHArLArMArNAsGAsNAsYArOrPAsHArRArSAsHAsSArTAsHAsTAtHArUsUrVAsOCAL",
   "IC LzaRzbRrYAkNUMBER EIGHTwYrFIFTYtVEsORTYtURrNINEvTYrONErSEVENwTYsIXuTYrTENsHIRTYtREEsWENTYtO",
   "kSIGN ANUSVARAqVAGRAHApCANDRABINDUpVIRAMArSARGAkVOWEL SIGN AAwIwUvEvIwIvOvUwUvVOCALIC LzeRzfRk",
   "WORD SEPARATORbICYCLEgISTcG REVERSE SOLIDUSeSOLIDUScKINIcLLED CAPeIARDScOHAZARD SIGNcRDdTHDAY ",
   "CAKEcSONcTCOIN SIGNdING LIPbLACK BOWTIEgCENTRE WHITE STARhHESS BISHOPs ROTATED NINETY DEGREESz",
   "cTWO HUNDRED SEVENTY DEGREESmEQUIHOPPERw ROTATED NINETY DEGREESmKINGq ROTATED NINETY DEGREESza",
   "TWO HUNDRED SEVENTY DEGREESnNIGHTs ROTATED FORTY-FIVE DEGREESzcNINETY DEGREESzcONE HUNDRED THI",
   "RTY-FIVE DEGREESzcTHREE HUNDRED FIFTEEN DEGREESzdWO HUNDRED SEVENTY DEGREESzoTWENTY-FIVE DEGRE",
   "ESs-BISHOPtQUEENtROOKmPAWNq ROTATED NINETY DEGREESzaTWO HUNDRED SEVENTY DEGREESmQUEENr ROTATED",
   " NINETY DEGREESzbTWO HUNDRED SEVENTY DEGREESmROOKq ROTATED NINETY DEGREESzaTWO HUNDRED SEVENTY",
   " DEGREESmTURNED BISHOPtKINGuNIGHTtPAWNtQUEENtROOKhIRCLEm FOR RECORDnWITH DOWN ARROWsTWO WHITE ",
   "DOTSsWHITE DOT RIGHThLUB SUIThROSS ON SHIELDhURVED DOWNWARDS AND LEFTWARDS ARROWzcRIGHTWARDS A",
   "RROWnLEFTWARDS AND DOWNWARDS ARROWzcUPWARDS ARROWnRIGHTWARDS AND DOWNWARDS ARROWzdUPWARDS ARRO",
   "WnUPWARDS AND LEFTWARDS ARROWzaRIGHTWARDS ARROWgDIAMONDn CENTREDoMINUS WHITE XoON CROSSoSUIToW",
   "ITH DOWN ARROWhOWN POINTING BACKHAND INDEXk-POINTING DOUBLE TRIANGLEuISOSCELES RIGHT TRIANGLEu",
   "SMALL TRIANGLEuTRIANGLEkWARDS EQUILATERAL ARROWHEADhRAUGHTS KINGpMANiOPLETgFLAGiORETTEhOLDERiU",
   "R POINTED STARgHARD SHELL FLOPPY DISKhEARTl SUITiXAGONhORIZONTAL ELLIPSEiURGLASSgLARGE CIRCLEm",
   "SQUAREhEFT LANE MERGElPOINTING BACKHAND INDEXuINDEXk-POINTING DOUBLE TRIANGLEzk WITH VERTICAL ",
   "BARuISOSCELES RIGHT TRIANGLEuPOINTERuSMALL TRIANGLEuTRIANGLEkWARDS BULLETqEQUILATERAL ARROWHEA",
   "DhOWER LEFT TRIANGLEmRIGHT TRIANGLEiZENGEgMEDIUM DIAMONDoOWN-POINTING TRIANGLEzk CENTREDnLEFT-",
   "POINTING TRIANGLEzk CENTREDoOZENGEnRIGHT-POINTING TRIANGLEzl CENTREDnSMALL DIAMONDtLOZENGEtSQU",
   "AREoQUAREnUP-POINTING TRIANGLEzi CENTREDhOON LILITHgNIBgOCTAGONgPARALLELOGRAMhENNANTjTAGONhUSH",
   "PINgQUESTION MARK ORNAMENTgRECTANGLEhIGHT POINTING BACKHAND INDEXvINDEXl-POINTING DOUBLE TRIAN",
   "GLEzl WITH VERTICAL BARvISOSCELES RIGHT TRIANGLEvPENTAGONwOINTERvSMALL TRIANGLEvTRIANGLEze WIT",
   "H DOUBLE VERTICAL BARlWARDS ARROWwHEADrBULLETrEQUILATERAL ARROWHEADhOSETTEgSAFETY SCISSORShCIS",
   "SORShHOGI PIECEhKULL AND CROSSBONEShLIGHTLY SMALL CIRCLEvSQUAREhMALL DIAMONDmLOZENGEmSQUAREnTA",
   "RiILING FACEhNOWMANhPADE SUIThQUAREm BUTTONnCENTREDnFOR STOPhTARhUN WITH RAYSgTELEPHONEhINY DI",
   "AMONDlLOZENGElSQUAREhOUCHTONE TELEPHONEhRUCKhWO-WAY LEFT WAY TRAFFICgUNIVERSAL RECYCLING SYMBO",
   "LhP POINTING BACKHAND INDEXi-POINTING DOUBLE TRIANGLEsISOSCELES RIGHT TRIANGLEsSMALL TRIANGLEs",
   "TRIANGLEiPER LEFT TRIANGLEmRIGHT TRIANGLEiWARDS EQUILATERAL ARROWHEADgVERTICAL ELLIPSEpRECTANG",
   "LEjY SMALL DIAMONDrLOZENGErSQUAREf-FEATHERED NORTH EAST ARROWqRIGHTWARDS ARROWqSOUTH EAST ARRO",
   "WgLETTER CAPITAL CvHvIvRvZdNK SYMBOLcOCK SEXTANT-1p2q3r4s5s6r5s6r6q4r5s6r6q5r6q6p3q4r5s6r6q56q",
   "6p4q5r6q6p5q6p6o2p3q4r5s6r6q5r6q6p4q5r6p5q6p6o3p4q5r6q6p5q6p6o4p5q6p6o5p6o6dSSOMdWFISHcUE BOOK",
   "fHEARTeBERRIESbOARcLD EIGHT SPOKED ASTERISKfFIVE SPOKED ASTERISKfGREEK CROSSfSALTIREgIX SPOKED",
   " ASTERISKfWHITE CIRCLElSQUAREcMdBcNEcOKeMARKi TABSeSdMERANGcPOMOFO FINAL LETTER GwHwKwPwTjLETT",
   "ER ArHrIsNNrMrNsGsNrUsNNqBrUqCrHqDqErErHrIrNsGsNrRqFqGrHrNrUrWqHqIrHrMrNNtNrRrUqJrIqKrWqLrHqMq",
   "NrGsGrNqOr WITH DOT ABOVErErMrNGsNrOrUqPqQqRqSrHqTqUrNNqVqXqZrHrIrYcTTLE WITH POPPING CORKeOM ",
   "ARC ANTICLOCKWISE ARROWhCURLY BRACKEThHALF BLACK CIRCLEmINTEGRALmLEFT PARENTHESISmRIGHT PARENT",
   "HESIShLEFT CORNERnROPmHALF BRACKEThPARENTHESIShRIGHT CORNERoROPnHALF BRACKEThSQUARE BRACKETv O",
   "VER TOP SQUARE BRACKEThTORTOISE SHELL BRACKETcUQUETh OF FLOWERScW AND ARROWdL OF HYGIEIAfWITH ",
   "SPOONeINGdTIEg WITH LEFT HALF BLACKmRIGHT HALF BLACKcX DRAWINGS DOUBLE DOWN AND HORIZONTALzeLE",
   "FTzeRIGHTuHORIZONTALuUP AND HORIZONTALzcLEFTzcRIGHTuVERTICALzd AND HORIZONTALziLEFTziRIGHTpWN ",
   "DOUBLE AND HORIZONTAL SINGLEzeLEFT SINGLEzeRIGHT SINGLEsHEAVY AND HORIZONTAL LIGHTzdLEFT LIGHT",
   "ziUP LIGHTzdRIGHT LIGHTzjUP LIGHTzdUP HORIZONTAL LIGHTsLIGHT AND HORIZONTAL HEAVYzdLEFT HEAVYz",
   "iUP HEAVYzdRIGHT HEAVYzjUP HEAVYzdUP HORIZONTAL HEAVYsSINGLE AND HORIZONTAL DOUBLEzeLEFT DOUBL",
   "EzeRIGHT DOUBLEnHEAVY DOUBLE DASH HORIZONTALzgVERTICALvWNx AND HORIZONTALzdLEFTzdRIGHTtHORIZON",
   "TALtLEFTx AND LIGHT RIGHTtQUADRUPLE DASH HORIZONTALzjVERTICALtRIGHTtTRIPLE DASH HORIZONTALzgVE",
   "RTICALtUPv AND HORIZONTALzbLEFTzcIGHT DOWNzbRIGHTtVERTICALzc AND HORIZONTALzhLEFTzhRIGHTnLEFT ",
   "DOWN HEAVY AND RIGHT UP LIGHTsHEAVY AND RIGHT DOWN LIGHTzjUP LIGHTzjVERTICAL LIGHTsLIGHT AND R",
   "IGHT DOWN HEAVYzjUP HEAVYzjVERTICAL HEAVYsUP HEAVY AND RIGHT DOWN LIGHToIGHT ARC DOWN AND LEFT",
   "zhRIGHTxUP AND LEFTzfRIGHTtDIAGONAL CROSSzdDIAMONDzdMIDDLE LEFT TO LOWER CENTREzzf TO MIDDLE R",
   "IGHTzsUPPER CENTRE TO MIDDLE RIGHTzzv TO LOWER CENTREzkRIGHT TO LOWER CENTREztUPPER CENTRE TO ",
   "MIDDLE LEFT TO LOWER CENTREzdUPPER CENTRE TO MIDDLE LEFTzzf AND MIDDLE RIGHT TO LOWER CENTREzz",
   "gTO LOWER CENTREzzv TO MIDDLE RIGHTzzbRIGHTzzg AND MIDDLE LEFT TO LOWER CENTREzzhTO LOWER CENT",
   "REzzw TO MIDDLE LEFTzjLEFT TO LOWER RIGHTzjRIGHT TO LOWER LEFTuOUBLE DASH HORIZONTALzgVERTICAL",
   "vWNx AND HORIZONTALzdLEFTzdRIGHTtHORIZONTALze WITH VERTICAL STROKEtLEFTx AND HEAVY RIGHTtQUADR",
   "UPLE DASH HORIZONTALzjVERTICALtRIGHTtTRIPLE DASH HORIZONTALzgVERTICALtUPv AND HEAVY DOWNzcORIZ",
   "ONTALzbLEFTzbRIGHTtVERTICALzc AND HORIZONTALzhLEFTzhRIGHTnRIGHT DOWN HEAVY AND LEFT UP LIGHTtH",
   "EAVY AND LEFT DOWN LIGHTzjUP LIGHTzjVERTICAL LIGHTtLIGHT AND LEFT DOWN HEAVYzjUP HEAVYzjVERTIC",
   "AL HEAVYtUP HEAVY AND LEFT DOWN LIGHTnUP DOUBLE AND HORIZONTAL SINGLEzcLEFT SINGLEzcRIGHT SING",
   "LEqHEAVY AND DOWN HORIZONTAL LIGHTzbHORIZONTAL LIGHTzbLEFT DOWN LIGHTzgLIGHTzbRIGHT DOWN LIGHT",
   "zhLIGHTqLIGHT AND DOWN HORIZONTAL HEAVYzbHORIZONTAL HEAVYzbLEFT DOWN HEAVYzgHEAVYzbRIGHT DOWN ",
   "HEAVYzhHEAVYqSINGLE AND HORIZONTAL DOUBLEzcLEFT DOUBLEzcRIGHT DOUBLEnVERTICAL DOUBLE AND HORIZ",
   "ONTAL SINGLEziLEFT SINGLEziRIGHT SINGLEwHEAVY AND HORIZONTAL LIGHTzhLEFT LIGHTzhRIGHT LIGHTwLI",
   "GHT AND HORIZONTAL HEAVYzhLEFT HEAVYzhRIGHT HEAVYwSINGLE AND HORIZONTAL DOUBLEziLEFT DOUBLEziR",
   "IGHT DOUBLEdING GLOVEcYdS SYMBOLbPHbRAHMI DANDAiIGIT EIGHTnFIVEoOURnNINEnONEnSEVENoIXnTHREEoWO",
   "nZEROiOUBLE DANDAhLETTER ApApIpUoBApHAoCApHAoDApDAqHApHAoEoGApHAoHAoIpIoJApHAoKApHAoLApLAoMAoN",
   "ApGApNApYAoOpLD TAMIL LLAzbLAyNNNAyRRAySHORT EzfOoPApHAoRAoSApHApSAoTApHApTAqHAoUpUoVApOCALIC ",
   "LxLwRxRoYAhNUMBER EIGHTtYoFIFTYqVEpORTYqURoJOINERoNINEsTYoONEr HUNDREDsTHOUSANDoSEVENtTYpIXrTY",
   "oTENpHIRTYqREEpWENTYqOhPUNCTUATION CRESCENT BARtDOTvUBLE DOTtLINEuOTUShSIGN ANUSVARAmCANDRABIN",
   "DUmJIHVAMULIYAmOLD TAMIL VIRAMAmUPADHMANIYAmVISARGAhVIRAMAiOWEL SIGN AAtItUsBHATTIPROLU AAsEsI",
   "tIsOtLD TAMIL SHORT EzjOsUtUsVOCALIC LzcLzbRzcRdILLE PATTERN BLANKqDOTS-1w2x3y4za5zb6zc7zd8zc8",
   "zb7zc8zb8za6zb7zc8zb8za7zb8za8y5za6zb7zc8zb8za7zb8za8y6za7zb8za8y7za8y8x4y5za6zb7zc8zb8za7zb8z",
   "a8y6za7zb8za8y7za8y8x5y6za7zb8za8y7za8y8x6y7za8y8x7y8x8w3x4y5za6zb7zc8zb8za7zb8za8y6za7zb8za8y",
   "7za8y8x5y6za7zb8za8y7za8y8x6y7za8y8x7y8x8w4x5y6za7zb8za8y7za8y8x6y7za8y8x7y8x8w5x6y7za8y8x7y8x",
   "8w6x7y8x8w7x8w8v2w3x4y5za6zb7zc8zb8za7zb8za8y6za7zb8za8y7za8y8x5y6za7zb8za8y7za8y8x6y7za8y8x7y",
   "8x8w4x5y6za7zb8za8y7za8y8x6y7za8y8x7y8x8w5x6y7za8y8x7y8x8w6x7y8x8w7x8w8v3w4x5y6za7zb8za8y7za8y",
   "8x6y7za8y8x7y8x8w5x6y7za8y8x7y8x8w6x7y8x8w7x8w8v4w5x6y7za8y8x7y8x8w6x7y8x8w7x8w8v5w6x7y8x8w7x8",
   "w8v6w7x8w8v7w8v8eNcEADeK PERMITTED HEREeST-FEEDINGdVEcICKdDE WITH VEILeGE AT NIGHTdEFCASEfScOC",
   "COLIdKEN BARhCIRCLE WITH NORTHWEST ARROWhHEARTdOMdWN HEARTbSbUBBLE TEAgScCKETcGdINESE END OF S",
   "ECTIONjLETTER AqBAqCAqDAqGAqHAqJAqKAqLAqMArPAqNArGAsKArRArYAsCAqPAqRAqSAqTAqVAqYAjPALLAWAjVOWE",
   "L SIGN AEuEuIuOuUcHID LETTER AnBAnDAnGAnHAnInKAnLAnMAnNAoGAnPAnRAnSAnTAnUnWAnYAgVOWEL SIGN IrU",
   "cILDING CONSTRUCTIONcLLETg OPERATOReHORNi WITH SOUND WAVESeSEYEcRRITOcSd STOPdT IN SILHOUETTEe",
   "S IN SILHOUETTEcTTERgFLYbYTE ORDER MARKcZANTINE MUSICAL SYMBOL AGOGI ARGIzjOTERIzgGORGIzkOTERI",
   "zgMESIziTRIAzgPOLI ARGIzlGORGIzbNATRICHISMAzcTIKENOKYLISMAziMAzbPESO EKFONITIKONzhXO NEOzcLIzc",
   "ODERMA ARCHAIONzjNEOzdSTROFOI SYNDESMOS NEOzlTELOUS ICHIMATOSzjSzk DIPLIzlNEOzdTHEMAzbRGONzeSY",
   "NTHETONzcKTIKO DIziGAziKEziNIziPAziVOUziZOzaCHAMILIzgONzcOREVMA ARCHAIONzjNEOzcROA KLITONzgSPA",
   "THIzgZYGOSzaDASEIAzbIARGONzdSTOLI APLI MEGALIzpIKRIzjDIPLIzjTHESEOSzcESIS APLI DYO DODEKATAzhD",
   "IGRAMMOS EX DODEKATAzhMONOGRAMMOS TESSERA DODEKATAzhTETARTIMORIONziRIGRAMMOS OKTO DODEKATAzkTI",
   "MORIONzcFTOGGOS OUzcGORGONzi PARESTIGMENON ARISTERA ANOzzhKATOzxDEXIAzdRAMMA GGzcPLIzf ARCHAIO",
   "NzbYOzaEKSTREPTONzbLAFRONzbNARXIS KAI FTHORA VOUzcDOFONONzbPEGERMAzbTERON ARGOSYNTHETONzhPARAK",
   "ALESMAzbXO EKFONITIKONzaFANEROSIS DIFONIASzkMONOFONIASzkTETRAFONIASzbHTORA SKLIRON CHROMA VASI",
   "SzbTHORA ARCHAIONzp DEYTEROU ICHOUzhDIATONIKI DIzrKEzrNANAzsI ANOzuKATOzrPAzrZOzhENARMONIOS AN",
   "TIFONIAzhI YFESIS TETARTIMORIONzhMALAKON CHROMA DIFONIASzwMONOFONIASzhNAOS ICHOSziENANOzhSKLIR",
   "ON CHROMA SYNAFIzwVASISzpDIATONON DIzaGENIKI DIESISzhYFESISzbORGON ARCHAIONzhNEO ANOzlKATOzhPA",
   "RESTIGMENON ARISTERAzvDEXIAzfSYNTHETONzdTHMIKON N APLOUNznDIPLOUNzbRONTHISMATAzaICHADINzbMIDIA",
   "RGONzdFONONzeTHORAziONzbSAKIA TELOUS ICHIMATOSzcON ARCHAIONzfNEOzaKATAVA TROMIKONzgSMAzdHISTIz",
   "bENTIMA ARCHAIONziNEO ANOzmKATOzmMESOzhTAzj ARCHAIONzkNEO ANOzoKATOzoMESOzbLASMAzg ANOzhKATOzb",
   "ONTEVMAzi ALLOzcRONISzcUFISMAzbRATIMA ALLOzjRCHAIONziNEOzhTAzgOKOUFISMAzhYPORROONzcEMASTIzbYLI",
   "SMAzaLEIMMA DYO CHRONONzhENOS CHRONOUzhIMISEOS CHRONOUzhTESSARON CHRONONziRION CHRONONzcMOIzbY",
   "GISMAzaMARTYRIA ALLI DEYTEROS ICHOSzoPROTOS ICHOSzjDEYTEROS ICHOSzjLEGETOS ICHOSzjPLAGIOS ICHO",
   "SzrTETARTOS ICHOSzkROTOS ICHOSzoVARYS ICHOSzjTETARTOS ICHOSzsLEGETOS ICHOSzkRIFONIASzmTOS ICHO",
   "SzjVARYS ICHOSzbIKRON ISONzaNANAzaOLIGON ARCHAIONzhNEOzbMALONzbXEIA DIPLIzgEKFONITIKONzgNEOzfI",
   " ARCHAIONzbYRANISMA ARCHAIONzkNEOzaPARAKALESMA ARCHAIONzmNEOzfLITIKIzl ARCHAIONzmNEOzdICHONzbE",
   "LASTONzi NEOzcRISPOMENIzcTASMAzfTIzgOKOUFISMAzbIASMA ARCHAIONzhNEOzbSIFISTOLYGISMAziNzj NEOziP",
   "ARAKALESMAziSYNAGMAzdLIzeONzaRAPISMAzbEVMAzaSAXIMATAzbEISMAzg NEOzbIMANSIS ARSEOSzp DISIMOUzqT",
   "ETRASIMOUzrRISIMOUzjTHESEOSzq DISIMOUzrTETRASIMOUzsRISIMOUzbTAVROSzh APODEXIAzcIGMAzcRAGGISMAT",
   "AzbYNAGMA ARCHAIONziMETA STAVROUziNEOzdEVMAzcRMAzfTIKIzaTELEIAzcSSERAzcTRAPLIzbHEMAzf APLOUNzf",
   "TISMOS ESOznXOzdS KAI APOTHESzcITAzbINAGMAzbRIAzdGORGONzdPLIzcOMIKOLYGISMAzhN ALLOzkRCHAIONzjN",
   "EOzhPARAKALESMAziSIFISTONzhSYNAGMAzaVAREIA DIPLIzhEKFONITIKONzhNEOzgI ARCHAIONzcTHYzaXIRON KLA",
   "SMAzaYFEN ANOzfKATOzdSIS APLI DYO DODEKATAzhDIGRAMMOS EX DODEKATAzhMONOGRAMMOS TESSERA DODEKAT",
   "AzhTRIGRAMMOS OKTO DODEKATAzkTIMORIONzbPOKRISISzj DIPLIzdRROIzcSILIaCACTUScDA UNAdUCEUScLENDAR",
   "dL ME HANDcMERAg WITH FLASHdPINGcNdADIAN SYLLABICS AuAvIvYuIvVILIK BuNuTHAPASCAN MzfSuYtBEAVER",
   " DENE LzgRuIBLE-CREE YuLACKFOOT AzeEzeIzeKAzfEzfIzfOzeNAzfEzfIzfOzeOzeSzeWzfAzfEzfIzfOtCuAvAwI",
   "vRRIER CHAzeEzfEzeIzeOzeUzcDEEzeNE GEEzfTAL SzdIzdLAzeEzfEzeIzeOzeUzdZAzeEzfEzeIzeOzeUzcEEzcGA",
   "zeAzdEzeEzdHAzeEzfEzeIzeOzeUzdIzdOzdUzdWAzeUzcHzdEEzdIzdWAzeEzfEzeIzeOzeUzcIzdNITIAL ZzcJAzdEz",
   "eEzdIzdJAzeEzfEzeIzeOzeUzdOzdUzdWAzcKHAzeEzfEzeIzeOzeUzdKzeAzeEzfEzeIzeOzeUzcLAzdEzeEzdHAzeEzf",
   "EzeIzeOzeUzdIzdOzdUzcMAzdEzeEzdIzdOzdUzcNAzdEzeEzdGzdIzdOzdUzcPzdAzdEzeEzdIzdOzdUzcRAzdEzeEzdI",
   "zdOzdUzcSAzdEzeEzdHzeAzeEzfEzeIzeOzeUzdIzdOzdUzcTHAzeEzfEzeIzeOzeUzdLAzeEzfEzeHAzfEzgEzfIzfOzf",
   "UzeIzeOzeUzdSAzeEzfEzeIzeOzeUzdTAzeEzfEzeIzeOzeSAzfEzgEzfIzfOzfUzeUzcWAzdEzeEzdIzdOzdUzcYAzdEz",
   "eEzdIzdOzdUzcZzdAzdEzeEzdIzdOzdUuEuHI SIGNuIvIuOvOuWAwAvEvIwIvOwOtEuASTERN WuNtFuAvAwIuEuIvIvN",
   "AL ACUTEzaBOTTOM HALF RINGzaDOUBLE ACUTEzhSHORT VERTICAL STROKESzcWN TACKzaGRAVEzaMIDDLE DOTza",
   "PLUSzaRAISED DOTzbIGHT HALF RINGzcNGzaSHORT HORIZONTAL STROKEzbMALL RINGzaTOP HALF RINGuOvOuUL",
   "L STOPuWAAtGLOTTAL STOPtHKuYPHENtIuIuNtKuAvAwIvYuEuIvIuOvOuWvAwAwYvEvIwIvOwOtLuAvAwIvYuEuHvAwA",
   "vIwIvOwOuIvIuOvOuWAwAvEvIwIvOwOtMuAvAwIvYuEvDIAL LzbRuHuIvIuOvOwSE-CREE SKuWAwAvEvIwIvOwOtNu-C",
   "REE THEzdIzeIuAvAwIvSKAPI CWAAzcKWAAzcMWAAzcNWAAzcS-WzdCWAzdKWzfAzdPWAzdTWAzdWAAzcTWAAzcWAAzdO",
   "OzcYWAAvTTILIK HAzfAzeIzfIzeOzfOzdSHRAzhAzgIzhIzgOzhOvYuEuGvAwAxIwIvIwIvOwOuHuIvIuNGwAxAwIxIwO",
   "xOuOvOvYuUNAVIK HzdAzeAzdEzdIzeIzdOzeOyUT HuWAwAvEvIwIvOwOtOuJIBWAY CzcKzcMzcNzdWIzfIzeOzfOzcP",
   "zcSzdHzcTuNuOuYtPuAvAwIvYuEuIvIuOvOvYuWAwAvEvIwIvOwOwYtQuAvAwIvIuIvIuOvOtRu-CREE REzcWEuAvAwIv",
   "YuEuIvIuOvOuWAwAvEEvIwIvOwOtSuAvAwIvYwISI HAzcEzcIzcOzdOzbJIzcUzdUzbMzbSHAzdEzdIzdOzeOzdWEzbTH",
   "zbYIuEuHvAwAwYvEvIwIvOwOwYvWAxAwEwIxIwOxOxYuIvIuOvOvUTH-SLAVEY KAHziEHziIHziOHvYuPAvEvIvOuWvAw",
   "AvEvIwIvOwOtTuAvAwIvYuEuHv-CREE THzeAzfAzeEzeIzfIzeOzfOvAwAvEvIwIvOwOvWAxAwEuIvIuLHAwEwIwOxOwW",
   "EuOvOuTAvEvHwAxAwEwIwOxOwWEvIvOuWAwAvEvIwIvOwOuYAvEvIvOtWAvAvYuEvST-CREE CWAzhAzgEzgIzhIzgOzhO",
   "zeFWAAzeKWAzhAzgEzgIzhIzgOzhOzeLzfAzgAzfEzfOzgOzfWAzhAzgEzgIzhIzgOzhOzeMzfWAzhAzgEzgIzhIzgOzhO",
   "zeNWAzhAzgEzePzfWAzhAzgEzgIzhIzgOzhOzeRzfAzfEzfIzfOzfWAAzeSHWAziAzhEzhIziIzhOziOzfWAzhAzgEzgIz",
   "hIzgOzhOzeTHWAAzfWAzhAzgEzgIzhIzgOzhOzeWAzgAzfEzfIzgIzfOzgOzeYzfWAzhAzgEzgIzhIzgOzhOxERN WuIvI",
   "uOvOwDS-CREE FINAL THzfTHzhAzhEzhIzhOzhWAzjAziEEziIzjIziOzjOtYu-CREE COOzbKOOzbLOOzbMOOzbNOOzb",
   "OOzbPOOzcWAAzbSOOzbTOOzbWzbYOOuAvAwIvYuEuIvIuOvOvYuWAwAvEvIwIvOwOdCELg CHARACTERhTAGgLATION Xf",
   "RdDLEeYdNED FOODdOEcPITULUMdRICORNcR SLIDINGdD FILE BOXfINDEXk DIVIDERSdE OFeTf INSERTION POIN",
   "TdIAN LETTER Ap2oBoC-18q39oDp2oEp2oGp2oIpIoKp2oLpDq2oMpBq2q3q4oNpDpGpNoOoPp2oQoRpRoSpHq2pSpTq2",
   "oTpTq2oUpUqUr2r3rUoXdONeUSEL HORSEdP STREAMEReENTRY SAWdRIAGE RETURNeOTcSTLEcTd FACEi WITH TEA",
   "RS OF JOYoWRY SMILEcUCASIAN ALBANIAN CITATION MARKtLETTER ALTzcORzbBETzbCARzdYNzcHAzeTzdIzdOYz",
   "cYAWzeYzbDATzcYANzcZAYzdYAYzbEBzcYNzbFAMzbGHEYSzcIMzbHEYTzbINYAzcRBzcWNzbJAYNzcHOXzbKARzcIWzbL",
   "ANzcYITzbMAQzbNOWCzbONzbPENzcIWRzbQARzdYzbRATzbSEYKzcHAzeKzdOYzbTASzcIWRzcYAYzbVEYZzbXEYNzbYAY",
   "DzcOWDzbZARLzcHAzdILdTION SIGNbCHbEDI SIGNeLLAcLTIC CROSScNT SIGNeRE LINE SYMBOLgLINE LOW LINE",
   "lOVERLINEcRESbGJbHAINSeRdKMA AU MARKhDANDAiIGIT EIGHTnFIVEoOURnNINEnONEnSEVENoIXnTHREEoWOnZERO",
   "iOUBLE DANDAhLETTER AAoBAApHAAoCAApHAAoDAApDAAqHAApHAAoEoGAApHAAoHAAoIoJAApHAAoKAApHAAoLAApHAA",
   "oMAAoNAApGAApNAApYAAoPAApHAAoRAAoSAAoTAApHAApTAAqHAAoUoVAAoWAAoYAApYAAhMAAYYAAhO MARKhQUESTION",
   " MARKhSECTION MARKiIGN ANUSVARAmCANDRABINDUmVISARGAhVIRAMAiOWEL SIGN AtAtItUsEtIsItIsOtIsUtUdM",
   " CONSONANT SIGN FINAL HzbMzbNGuLAuRAuWAuYAfDIGIT EIGHTlFIVEmOURlNINElONElSEVENmIXlTHREEmWOlZER",
   "OfLETTER AnImBAnBAnHAmCHAoHAmDAnDAnHAmEmFINAL CHsGsKsLsNtGsPsRsSSsTsYmGAnHAmHAmImJAnHAmKAnHAmL",
   "AmMAnUEmNAnGAoUEnHAoJAoUEnUEmOmPAnHAnPAmRAmSAnSAmTAnHAmUmVAmYAfPUNCTUATION DANDAsOUBLE DANDArS",
   "PIRALrTRIPLE DANDAfVOWEL SIGN AArIrUqEIqIrIqOrEqUrEdRACTER TABULATIONu SETvWITH JUSTIFICATIONl",
   "IEeT WITH DOWNWARDS TRENDlUPWARDS TRENDy AND YEN SIGNcECK MARKfER BOARDn FILLdERING MEGAPHONEe",
   "SE WEDGEdQUERED FLAGdROKEE LETTER AqDArErIrLArOrUrVqEqGArErIrOrUrVqHArErIrNArOrUrVqIqKAqLArErI",
   "rOrUrVqMArErIrOrUrVqNAsHrErIrOrUrVqOqQUAsEsIsOsUsVqSrArErIrOrUrVqTArErIrLAsEsIsOsUsVrSAsEsIsOs",
   "UsVqUqVqWArErIrOrUrVqYArErIrOrUrVjSMALL LETTER AwDAxExIxLAxOxUxVwEwGAxExIxOxUxVwHAxExIxNAxOxUx",
   "VwIwKAwLAxExIxOxUxVwMAxExIxOxUxVwNAyHxExIxOxUxVwOwQUAyEyIyOyUyVwSxAxExIxOxUxVwTAxExIxLAyEyIyOy",
   "UyVxSAyEyIyOyUyVwUwVwWAxExIxOxUxVwYAxExIxOxUxVeRIESfY BLOSSOMdSTNUTcI RHOdCKENdLDfREN CROSSING",
   "dPMUNKdRONcOCOLATE BARdPSTICKSdRASMIAN LETTER ALEPHtYINsBETHsCURLED WAWsDALETHsGIMELsHEuTHsKAP",
   "HsLAMEDHsMEMsNUNsPEsRESHsSAMEKHtHINtMALL ALEPHsTAWsWAWsYODHsZAYINlNUMBER FOURsONEv HUNDREDsTEN",
   "tHREEtWENTYuOcRISTMAS TREEcURCHbINEMAcRCLE DIVIDED BY HORIZONTAL BAR AND TOP HALF DIVIDED BY V",
   "ERTICAL BARhWITH ALL BUT UPPER LEFT QUADRANT BLACKmHORIZONTAL BARmLEFT HALF BLACKnOWER HALF BL",
   "ACKmRIGHT HALF BLACKmSMALL CIRCLE TO THE RIGHTnUPERIMPOSED XmTWO HORIZONTAL STROKES TO THE RIG",
   "HTmUPPER HALF BLACKsRIGHT QUADRANT BLACKmVERTICAL FILLgD ANTICLOCKWISE ARROWv-ROTATED DIVISION",
   " SIGNjSTERISK OPERATORiBOLD XjULLETiC WITH OVERLAID BACKSLASHjCjDjROSS FORMEEu WITH FOUR DOTSz",
   "bTWO DOTSoPOMMEEnING LANESiDASHjIGIT EIGHToFIVEpOURoNINEoONEoSEVENpIXoTHREEpWOoZEROkVISION SIG",
   "NsLASHjOLLAR SIGN WITH OVERLAID BACKSLASHkT OPERATORiEQUALSiGREATER-THANiHANGUL CHIEUCHw AqIEU",
   "Cu ApHIEUHu ApIEUNGu AvUpKHIEUKHw AqIYEOKv ApMIEUMu ApNIEUNu ApPHIEUPHw AqIEUPu ApRIEULu ApSIO",
   "St ApTHIEUTHw AqIKEUTv AjEAVY WHITE RIGHTWARDS ARROWjORIZONTAL BAR WITH NOTCHjUMAN FIGUREiIDEO",
   "GRAPH ACCEPTtDVANTAGEtLLIANCEtTTENTIONsCENTREtONGRATULATIONuPYuRRECTsEARTHtIGHTtNTERPRISEtXCEL",
   "LENTsFEMALEtINANCIALuREuVEtOURsHAVEtIGHsITEMsKINDERGARTENtOTOsLABORtEFTtOWsMALEtEDICINEuTALtOO",
   "NsNAMEtIGHTuNEsONEsPRINTsQUESTIONsRELIGIONuSOURCEvTtIGHTsSCHOOLtECRETuVENtIXtOCIETYtPECIALtTOC",
   "KuUDYtUITABLEuNuPERVISEsTENtHREEtWOsWATERtOODjNFORMATION SOURCEjTALIC LATIN CAPITAL LETTER Czl",
   "RiKATAKANA ArErHAsEsIsOsUrIrKAsEsIsOsUrMAsEsIsOsUrNAsEsIsOsUrOrRAsEsIsOsUrSAsEsIsOsUrTAsEsIsOs",
   "UrUrWAsEsIsOrYAsOsUjOREAN CHARACTER CHAMKOzaJUEUIiLATIN CAPITAL LETTER AzeBzeCzeDzeEzeFzeGzeHz",
   "eIzeJzeKzeLzeMzeNzeOzePzeQzeRzeSzeTzeUzeVzeWzeXzeYzeZoSMALL LETTER AzcBzcCzcDzcEzcFzcGzcHzcIzc",
   "JzcKzcLzcMzcNzcOzcPzcQzcRzcSzcTzcUzcVzcWzcXzcYzcZjESS-THANiMINUSjULTIPLICATION SIGN WITH CIRCU",
   "MFLEX ACCENTiNUMBER EIGHTEENuY ON BLACK SQUAREqLEVENpFIFTEENtYu ON BLACK SQUAREqORTYu EIGHTvFI",
   "VEwOURvNINEvON BLACK SQUARExEvSEVENwIXvTHREEwWOrURTEENpNINETEENpSEVENTEENvY ON BLACK SQUAREqIX",
   "TEENtY ON BLACK SQUAREpTENs ON BLACK SQUAREqHIRTEENuYv EIGHTwFIVExOURwNINEwON BLACK SQUAREyEwS",
   "EVENxIXwTHREExWOqWELVEsNTYv EIGHTwFIVExOURwNINEwON BLACK SQUAREyEwSEVENxIXwTHREExWOiOPEN CENTR",
   "E EIGHT POINTED STARiPARALLELjERPENDICULARjLUSjOSTAL MARKiREVERSE SOLIDUSjING OPERATORiSQUAREi",
   "TIMESjRIANGLEq DOWNiVERTICAL BARiWHITE BULLEToSTARjZiXiZERO WITH SLASHeULATION FUNCTIONfMFLEX ",
   "ACCENTfS TENTcTYSCAPEj AT DUSKbJK RADICAL BAMBOOnLUEnOLT OF CLOTHoNEoXnRUSH ONEsTWOmC-SIMPLIFI",
   "ED BIRDzaCARTzaDRAGONzaEATzbVENzaFISHzbLYzbROGzaGATEzbOLDzaHORSEzaLEAFzbONGzaSALTzbEEzbHELLzbI",
   "LKzbPEECHzaTANNED LEATHERzbOOTHzbURTLEzaWINDnHOKEnITYoVILIANnLIFFoOTHESnOWmDEATHnIVINATIONnOGm",
   "EAT ONEqTHREErWOnWEnYEmFIREnOOTmGHOSTnRASS ONEsTHREEtWOmHANDnEADpRT ONEsTWOnORNmJ-SIMPLIFIED D",
   "RAGONzaEVENzaTOOTHzbURTLEnADEmKNIFE ONEsTWOmLAME FOURrONErTHREEsWOnONG ONErTWOmMEAToSHnOONoRTA",
   "RoTHERoUND ONEsTWOmNET FOURqONEqTHREErWOmOLDmPAW ONEqTWOnERSONmRAINoMoPnEPEATmSEALoCOND ONEtTH",
   "REEuWOnHEEPnILKoMPLIFIED HALF TREE TRUNKyORNxWALKyHEATxYELLOWnMALL ONEsTWOnNAKEoOUT ONEsTWOnPI",
   "RIT ONEtTWOnUNmTABLEnHREADnIGERnURTLEmWALK ONErTWOoTER ONEsTWOnEST ONErTWOeSTROKE BXGlDlHmGmPn",
   "WGmXWGmZnGnTnWoGnZoPoZpGlNlPmDmGmZlQlSmGmPmTmWnGnZmZnWGnZlTmNlWGlXGbLAMSHELL MOBILE PHONEdPPER",
   " BOARDfING HANDS SIGNdSSICAL BUILDINGcEAR SCREEN SYMBOLcINKING BEER MUGSjGLASSESdPBOARDcOCK FA",
   "CE EIGHT OCLOCKq-THIRTYmLEVEN OCLOCKr-THIRTYlFIVE OCLOCKp-THIRTYmOUR OCLOCKp-THIRTYlNINE OCLOC",
   "Kp-THIRTYlONE OCLOCKo-THIRTYlSEVEN OCLOCKq-THIRTYmIX OCLOCKo-THIRTYlTEN OCLOCKo-THIRTYmHREE OC",
   "LOCKq-THIRTYmWELVE OCLOCKr-THIRTYnO OCLOCKo-THIRTYfWISE CLOSED CIRCLE ARROWlONTOUR INTEGRALkDO",
   "WNWARDS AND UPWARDS OPEN CIRCLE ARROWSkGAPPED CIRCLE ARROWkINTEGRALkOPEN CIRCLE ARROWkRIGHT AN",
   "D LEFT SEMICIRCLE ARROWSpWARDS AND LEFTWARDS OPEN CIRCLE ARROWSzzd WITH CIRCLED ONE OVERLAYkTO",
   "P SEMICIRCLE ARROWlRIANGLE-HEADED OPEN CIRCLE ARROWdSE UPfD BOOKhINTERSECTION WITH SERIFShLOCK",
   " WITH KEYhMAILBOX WITH LOWERED FLAGuRAISED FLAGhSUBSETn OR EQUAL TOjPERSETp OR EQUAL TOhUMBREL",
   "LAiNION WITH SERIFSy AND SMASH PRODUCTdUDf WITH LIGHTNINGlRAINlSNOWlTORNADOdWN FACEbOATcCKROAC",
   "HeTAIL GLASSdONUTcFFINcINcLLISION SYMBOLdONf EQUALSgSIGNcMBINING ACUTE ACCENTw BELOWqTONE MARK",
   "p-GRAVE-ACUTEqMACRONlLMOST EQUAL TO ABOVEzbBELOWlNNUITY SYMBOLmTICLOCKWISE ARROW ABOVEyRING OV",
   "ERLAYlSTERISK ABOVEtBELOWkBINDU BELOWlREVEp BELOWp-MACRONmIDGE ABOVErBELOWkCANDRABINDUmRONp BE",
   "LOWlEDILLAlIRCUMFLEX ACCENTzc BELOWlLOCKWISE ARROW ABOVEuRING OVERLAYlOMMA ABOVEv RIGHTqBELOWm",
   "NJOINING MACRONzc BELOWlYRILLIC DASIA PNEUMATAtHUNDRED MILLIONS SIGNzcTHOUSANDS SIGNtKAVYKAtLE",
   "TTER AzbBEzcIG YUSzbCHEzbDEzcJERVzbEFzcLzcMzcNzcRzcSzd-TEzbFITAzbGHEzbHAzdRD SIGNzbIzcEzcOTIFI",
   "ED AzkBIG YUSzkEzbKAzbLITTLE YUSzbMONOGRAPH UKzbOzcMEGAzbPEzbSHAzdCHAzcOFT SIGNzbTEzcSEzbUzcKR",
   "AINIAN IEzbVEzbYATzcERUzcIzcUzbZEzcHEtMILLIONS SIGNtPALATALIZATIONvYEROKuOKRYTIEuSILI PNEUMATA",
   "tTEN MILLIONS SIGNuHOUSAND MILLIONS SIGNuITLOy LEFT HALFzaRIGHT HALFtVZMETkDELETION MARKmVANAG",
   "ARI DIGIT EIGHTzcFIVEzdOURzcNINEzcONEzcSEVENzdIXzcTHREEzdWOzcZEROvLETTER AzdKAzdNAzdPAzdRAzdUz",
   "dVIvSIGN AVAGRAHAlIAERESISt BELOWt-RINGlOT ABOVEt LEFTuRIGHToBELOWt LEFTnTED ACUTE ACCENTrGRAV",
   "E ACCENTmUBLE ACUTE ACCENTrBREVEw BELOWrCIRCUMFLEX ABOVErGRAVE ACCENTrINVERTED BREVEzg BELOWrL",
   "OW LINErMACRONx BELOWrOPEN MARK BELOWsVERLINErPARENTHESES ABOVEsLUS SIGN ABOVEzcBELOWrRIGHTWAR",
   "DS ARROW BELOWtNG BELOWrTILDEw LEFT HALFxRIGHT HALFrVERTICAL LINE ABOVEzgBELOWzbSTROKE OVERLAY",
   "qD CIRCUMFLEX ACCENTmWN TACK BELOWoWARDS ARROWkENCLOSING CIRCLEzb BACKSLASHuDIAMONDuKEYCAPuSCR",
   "EENvQUAREuUPWARD POINTING TRIANGLElQUALS SIGN BELOWkFERMATAlOUR DOTS ABOVEkGLAGOLITIC LETTER A",
   "ZUzdBIG YUSzeUKYzdCHRIVIzdDJERVIzeOBROzdFITAzeRITUzdGLAGOLIzdHERUzdIzeNITIAL IZHEzeOTATED BIG ",
   "YUSzlSMALL YUSzeZHEzdKAKOzdLJUDIJEzdMYSLITEzdNASHIzdONUzdPOKOJIzdRITSIzdSHAzfTAzeLOVOzeMALL YU",
   "SzdTSIzeVRIDOzdUKUzdVEDEzdYATIzeERIzgUzfSTUzeOzeUzdZEMLJAzeHIVETElRANTHA DIGIT FIVEzaOURyONEyS",
   "IXyTHREEzaWOyZEROsLETTER AzaKAzaNAzaPAzaVInPHEME JOINERnVE ACCENTw BELOWqTONE MARKp-ACUTE-GRAV",
   "EqMACRONmEEK DIALYTIKA TONOSqKORONISqMUSICAL PENTASEMEyTETRASEMEzaRISEMEqPERISPOMENIqYPOGEGRAM",
   "MENIkHOMOTHETIC ABOVEmOK ABOVEmRNkINFINITYmVERTED BREVEy BELOWvIDGE BELOWtDOUBLE ARCH ABOVEzgB",
   "ELOWlS BELOWkKATAKANA-HIRAGANA SEMI-VOICED SOUND MARKzdVOICED SOUND MARKmVYKA ABOVE LEFTxRIGHT",
   "kLATIN LETTER SMALL CAPITAL GzmLzmMzmNzmRqSMALL LETTER Azf WITH DIAERESISzfEzfLPHAzfOzfVzeBzfE",
   "TAzeCzf CEDILLAzeDzeEzfSHzfTHzeFzfLATTENED OPEN A ABOVEzeGzeHzeIzfNSULAR DzmGzmRzmTzeKzeLzf WI",
   "TH DOUBLE MIDDLE TILDEzfONG SzeMzeNzeOzf WITH DIAERESISzlLIGHT CENTRALIZATION STROKEzePzeRzf B",
   "ELOWzgROTUNDAzeSzfCHWAzeTzfURNED W BELOWzeUzf WITH DIAERESISzlLIGHT CENTRALIZATION STROKEzeVze",
   "Wzf BELOWzeXzeZlEFT ANGLE ABOVEvBELOWqRROW ABOVEvBELOWuHEAD ABOVEzaBELOWpHALF RING ABOVEzaBELO",
   "WrRPOON ABOVEpPARENTHESIS ABOVE LEFTzcBELOW LEFTpRIGHT ARROW ABOVEzcBELOWpTACK BELOWoWARDS ARR",
   "OW OVERLAYuHARPOON WITH BARB DOWNWARDSlIGATURE LEFT HALFzd BELOWtRIGHT HALFze BELOWnHT CENTRAL",
   "IZATION STROKE BELOWlONG DOUBLE SOLIDUS OVERLAYpSOLIDUS OVERLAYqTROKE OVERLAYpVERTICAL LINE OV",
   "ERLAYmW LINEkMACRONq BELOWrLEFT HALFzb BELOWrRIGHT HALFzc BELOWq-ACUTErBREVErGRAVElINUS SIGN B",
   "ELOWkNOT TILDE ABOVElUMBER SIGN ABOVEkOGONEKq ABOVElLD PERMIC LETTER ANzdDOIzdNENOEzdSIIzdZATA",
   "lPEN MARK BELOWlVERLINEkPALATALIZED HOOK BELOWmRENTHESES ABOVEwBELOWwOVERLAYlLUS SIGN ABOVEuBE",
   "LOWkRETROFLEX HOOK BELOWmVERSE SOLIDUS OVERLAYrD COMMA ABOVElIGHT ARROW ABOVEwBELOWvHEAD ABOVE",
   "zcND DOWN ARROWHEAD BELOWzfUP ARROWHEAD BELOWzbBELOWqHALF RING ABOVEzbBELOWsRPOON ABOVEqPARENT",
   "HESIS ABOVE RIGHTzdBELOW RIGHTqTACK BELOWpWARDS HARPOON WITH BARB DOWNWARDSmNG ABOVEpBELOWpOVE",
   "RLAYkSEAGULL BELOWlHORT SOLIDUS OVERLAYrTROKE OVERLAYqVERTICAL LINE OVERLAYlNAKE BELOWlQUARE B",
   "ELOWsRACKETS ABOVElTRONG CENTRALIZATION STROKE BELOWlUSPENSION MARKkTHREE DOTS ABOVElILDEp BEL",
   "OWqLEFT HALF BELOWqOVERLAYqRIGHT HALF BELOWlRIPLE ACUTE ACCENTrDOTrUNDERDOTlURNED COMMA ABOVEk",
   "UP TACK ABOVEsBELOWmWARDS ARROW BELOWlR ABOVElS ABOVEkVERTICAL LINE ABOVEyBELOWtTILDEkWIDE BRI",
   "DGE ABOVEpINVERTED BRIDGE BELOWmGGLY LINE BELOWkX ABOVEmBELOWl-X BELOWkZIGZAG ABOVErBELOWdETdM",
   "AeERCIAL ATlMINUS SIGNdPASSeLEMENTeOSITION SYMBOLeRESSIONcNFETTI BALLeOUNDED FACEeUSED FACEdGR",
   "UENT WITH DOT ABOVEdICAL TAPERdJUNCTIONdSTRUCTION SIGNnWORKERdTAINS AS MEMBERmNORMAL SUBGROUPz",
   "c OR EQUAL TOjWITH LONG HORIZONTAL STROKEoOVERBARoVERTICAL BAR AT END OF HORIZONTAL STROKEeINU",
   "OUS UNDERLINE SYMBOLeOUR INTEGRALeROL KNOBSiSEQUENCE INTRODUCERdVENIENCE STOREcOKED RICEeIEfNG",
   "cPTIC CAPITAL LETTER AKHMIMIC KHEIxLFAwBOHAIRIC KHEIwCROSSED SHEIyYPTOGRAMMIC EIEzlGANGIAzlNIz",
   "lSHEIwDALDAxEIxIALECT-P ALEFzhHORIzhKAPAzhNIwEIEwFEIxIwGAMMAyNGIAwHATExORIwIAUDAwKAPAxHEIyIxSI",
   "wL-SHAPED HAxAULAwMIwNIwOxLD COPTIC AINziDJAziESHziGANGIAziHAzkTzjEIzjORIziOOUziSHEIzkIMAzbNUB",
   "IAN NGIzjYIziSHIMAziWAUxOUwPIxSIwROwSAMPIxHEIyIMAxIMAxOUwTAUxHETHEwUAwVIDAwZATAiOMBINING NI AB",
   "OVErSPIRITUS ASPERzbLENIShEPACT DIGIT EIGHTtFIVEuOURtNINEtONEtSEVENuIXtTHREEuWOnNUMBER EIGHT H",
   "UNDREDzaYuFIFTYwVE HUNDREDvORTYwUR HUNDREDuNINE HUNDREDyTYuONE HUNDREDuSEVEN HUNDREDzaTYvIX HU",
   "NDREDxTYuTENvHIRTYwREE HUNDREDvWENTYwO HUNDREDnTHOUSANDS MARKhFRACTION ONE HALFiULL STOPhMORPH",
   "OLOGICAL DIVIDERhOLD NUBIAN DIRECT QUESTION MARKsFULL STOPsINDIRECT QUESTION MARKsVERSE DIVIDE",
   "RhSMALL LETTER AKHMIMIC KHEIvLFAuBOHAIRIC KHEIuCROSSED SHEIwYPTOGRAMMIC EIEzjGANGIAzjNIzjSHEIu",
   "DALDAvEIvIALECT-P ALEFzfHORIzfKAPAzfNIuEIEuFEIvIuGAMMAwNGIAuHATEvORIuIAUDAuKAPAvHEIwIvSIuL-SHA",
   "PED HAvAULAuMIuNIuOvLD COPTIC AINzgDJAzgESHzgGANGIAzgHAziTzhEIzhORIzgOOUzgSHEIziIMAyNUBIAN NGI",
   "zhYIzgSHIMAzgWAUvOUuPIvSIuROuSAMPIvHEIwIMAvIMAvOUuTAUvHETHEuUAuVIDAuZATAiYMBOL KAIpHI ROoMI RO",
   "oPI ROoSHIMA SIMApTAUROSoTAU ROdYLEFT SYMBOLeRIGHT SIGNcRALdNISH VERSE DIVIDERdRESPONDS TOcUCH",
   " AND LAMPdNTERBOREhSINKfING ROD TENS DIGIT EIGHTyFIVEzaOURyNINEyONEySEVENzaIXyTHREEzaWOnUNIT D",
   "IGIT EIGHTyFIVEzaOURyNINEyONEySEVENzaIXyTHREEzaWOdPLE WITH HEARTcWd FACEbRcABcEDIT CARDdSCENT ",
   "MOONcICKETh BAT AND BALLcOCODILEdISSANTdSS MARKgOF JERUSALEMjLORRAINEgPATTY WITH LEFT CROSSBAR",
   "rRIGHT CROSSBARhOMMEEm WITH HALF-CIRCLE BELOWfED FLAGSiNEGATIVE SQUARED LATIN CAPITAL LETTER P",
   "iSWORDSfING LANESdWNcUTCHdZEIRO SIGNcYING CAT FACEhFACEdSTAL BALLbSIbUBE ROOTcCUMBERcNEIFORM N",
   "UMERIC SIGN EIGHT ASHzeDISHzeGESH2zeSHAR2zeUzf VARIANT FORMzeVARIANT FORM USSUzv3yLAMITE FIFTY",
   "zhORTYzgONE THIRDzgTWO THIRDSxFIVE ASHzg TENUzdBAN2zh VARIANT FORMzeURUzdDISHzdGESH2zhUzdSHAR2",
   "zhUzeIXTHS DISHzdUze VARIANT FORMyOUR ASHzg TENUzdBAN2zh VARIANT FORMzeURUzdDISHzdGESH2zhUzdSH",
   "AR2zhUzdUze VARIANT FORMzdVARIANT FORM LIMMUzv AzwBzv4xNIGIDAESHzeMINzaNE ASHzdDISHzdGESH2zdSH",
   "AR2zdUze VARIANT FORMzdVARIANT FORM ILIMMUzw Azw3zw4xOLD ASSYRIAN ONE QUARTERzpSIXTHyNE BAN2zd",
   "URUzcEIGHTH ASHzdSHE3zcGESH2zgUzcHALF GURzcQUARTER ASHzkGURzcSHARUzcTHIRD DISHziVARIANT FORM A",
   "xSEVEN ASHzeDISHzeGESH2zeSHAR2zeUzf VARIANT FORMzeVARIANT FORM IMIN AzwBzv3yHAR2 TIMES GAL PLU",
   "S DISHztMINyIX ASHzf TENUzcDISHzcGESH2zcSHAR2zcUzd VARIANT FORMzcVARIANT FORM ASH9xTHREE ASHzh",
   " TENUzeBAN2zfURUzi VARIANT FORMzeDISHzeGESH2ziUzeSHAR2zj VARIANT FORMziUzj VARIANT FORMzeVARIA",
   "NT FORM ESH16zu21yWO ASHzf TENUzcBAN2zdURUzcESHE3zcGESH2zgUzcSHAR2zgUzcTHIRDS DISHzjVARIANT FO",
   "RM AkPUNCTUATION SIGN DIAGONAL COLONzlQUADCOLONzlTRICOLONzcOLD ASSYRIAN WORD DIVIDERzcVERTICAL",
   " COLONkSIGN Aq TIMES AxBADxGAN2 TENUxHAxIGIxLAGAR GUNUxMUSHxSAGq2qBr GUNUsTIMES ASH2yDUN3 GUNU",
   "yGALzbN2 TENUyHAyIGI GUNUzaMINyLAGAByNUNzc TENUySHESHzbU2yU PLUS U PLUS Ur2s TIMES AzaBALAGzaG",
   "AN2 TENUzaME PLUS ENzaSHA3zaTAK4qDr TIMES ESH2qKr TIMES ERIN2ySHITA PLUS GISHqLr TIMES ALyDIM2",
   "yGISHyHAyKAD3zaIySHEyUSHrANrEPHqMARt TIMES KUGzbSHEqNr OVER ANsPLUS NAGA OPPOSING AN PLUS NAGA",
   "zdSQUAREDsTHREE TIMESrSHEqPINqRADt TIMES KURrKABqSAL2rHs KABA TENUtOVER ASH OVER ASHzl CROSSIN",
   "G ASH OVER ASH OVER ASHzdTUG2 OVER TUG2 TUG2 OVER TUG2 PAPtZIDA TENUs2sGABpBArDs TIMES DISH TE",
   "NUrG3rHAR2v TIMES AB2zdNIzdZArLs OVER BALsAGrRsA2qIr TIMES AyGARyIGI GUNUqUr CROSSING BUsOVER ",
   "BU ABzbTIMES NA2zbUNrLUGu OVER BULUGrRs2pDAr TIMES TAK4rGs KISIM5 TIMES A PLUS MASHziMARzhBALA",
   "GziIzhGAzj PLUS MASHziIzjR2ziUDzhHAzhIRzj PLUS LUzhKAKzhLAziUzj PLUS MASH2zjMzhNEzhPAP PLUS PA",
   "PzhSIzhTAK4zhU2 PLUS GIR2zpMASHziSHtTIMES KURs3rMrRsA3t4qIrBrMs TIMES IGIzaSHEzaU U Us2t TIMES",
   " UDrNs KASKAL U GUNU DISHrSHt PLUS SHUqUr GUNUsOVER DUsSHESHIGrBs TIMES ESH2zaSHEs2rGs TIMES A",
   "NSHEzbSHzd AT LEFTzaDINzbUNzaERIN2zaGAzbIzcR2 GUNUzcSHzaHAzbIzaIGI GUNUzaKASKALzbURzcSHU2zg PL",
   "US KASKALzaLAK-020zcMzd TIMES KURzbUH PLUS GISHzaMASHzbESzbIzaNIzaPIzaSHEzbI GUNUsUDrHrNs3t GU",
   "NUy GUNUs4rR2pEq OVER E NUN OVER NUNrTIMES PAPq2r TIMES A PLUS HA PLUS DAyGARyKURyMIyPAPySALza",
   "HEyUqDINqGIRqLqNr CROSSING ENsOPPOSING ENsSQUAREDsTIMES GAN2zd TENUyMEqRENrIN2u XqSH2t CROSSIN",
   "G ESH2qZENt SHESHIG TIMES ASHzjHIzjIGI GUNUzjLAzlLzjMEzlSzjSUuTIMES Azc PLUS LALzl TIMES LALzc",
   "NzbBADzbDUN3 GUNUzk GUNUzbGUDzbHAzd GUNUzbIGI GUNUzbKASKALzh SQUAREDzcU3zbLAzdL TIMES LALzcIzc",
   "UzbSHEzcUzbU2zcDpGAr GUNUr2s OVER GA2tTIMES A PLUS DA PLUS HAzhHAzhIGIzbB2 TENU PLUS TABzbNzc ",
   "PLUS KAK PLUS AzbSHzd2ze PLUS GALzaBADzcHAR2zcR PLUS RAzbURzd PLUS RAzaDAzbIzcM GUNUzeTIMES SH",
   "EzbUBzcG TIMES IGI GUNUzkKASKALzaELzc PLUS LAzbNzc TIMES GAN2 TENUzbRENzaGAzcN2 TENUzcRzd PLUS",
   " DIzjNEzbIzc4zd PLUS AzcR2 PLUS SUzaHA PLUS AziLU PLUS ESH2zcLzd PLUS LAzbI PLUS LIzbUB2zaIGI ",
   "GUNUzbSH PLUS HU PLUS ASHzaKAKzcSKALzbIDzd PLUS LALzbU3 PLUS ANzcSHU2 PLUS KASKALzaLAzcMzd TIM",
   "ES KURzbUHzaME PLUS ENzbIzbUSHzaNEzc PLUS E2ziGIzbUNzd OVER NUNzaPAzaSALzcRzbHEzd PLUS TURzcID",
   "zdMzbUMzaTAK4zaUzbDzc PLUS DUzaZIZ2rBAt CROSSING GABAuROTATED NINETY DEGREESrDs OVER GAD GAR O",
   "VER GARrLs GAD OVER GAD GAR OVER GARsAMrMrNs2t CROSSING GAN2uOVER GAN2uTENUrRs3rSHANqE22rSHTIN",
   "w TIMES KURzeUqIr CROSSING GIsTIMES EyUr4s CROSSING GI4tOVER GI4rDIMrGrR2t GUNUs3t TIMES A PLU",
   "S IGIzbGAN2 TENUzbIGIzbLU PLUS IGIzbPArSALsHt CROSSING GISHuTENUvIMES BADzbGISH CROSSING GISHz",
   "bTAK4qUr CROSSING GUr2s GUNUtTIMES IGI GUNUzaKAKzd TIMES IGI GUNUzaNUNzaSAL PLUS TUG2rDs OVER ",
   "GUD LUGALtPLUS GISH TIMES TAK4tTIMES A PLUS KURzaKURrLrMs TIMES SHErRs7sUNtSHpHAr GUNUsTENUw G",
   "UNUrLqIr TIMES ASHzc OVER HI TIMES ASHzc2yBADyDISHyGADyKINyNUNySHEyUqUrB2t TIMES ANzbHALzbKASK",
   "ALzbLISHzbUDrL2rSHpIq AqBqDIMt OVER IDIM BURzfSQUAREDqGrIs DIBtGUNUtOVER IGI SHIR OVER SHIR UD",
   " OVER UDtRIqLr TIMES GAN2 TENUr2qMr CROSSING IMsOPPOSING IMsSQUAREDsTIMES TAK4rINqNqRqSHpKAr T",
   "IMES AzaDzb PLUS KU3zaNSHEzaSH2zc3yBADzbLAGzbRzaIzaUyERIN2zaSH2yGAzbLzbN2 TENUzbRzc PLUS SHA3 ",
   "PLUS AzaIzbR2zbSHzd CROSSING GISHzePLUS SARzaUzbDzbR7yHI TIMES ASH2yIGIzaMyKAzbKzaIzbDyLIzaUzb",
   "MyMEzb PLUS DUzhGIzhTEzaIzb PLUS NUNUZyNEzaUNyPAzaIyRUySAzbRzaHAzbEzbIDzbUzcLzaIGzaUHURyTARzaU",
   "yUza U Uza2zaDzaMUM TIMES PAzaRzb2zaSHyZIr2s CROSSING KA2rBrD2s3s4s5t OVER KAD5rKs TIMES IGI G",
   "UNUrLs CROSSING KALtTIMES BADrM2s4rP ELAMITErSKALv LAGAB TIMES U OVER LAGAB TIMES UwOVER KASKA",
   "L LAGAB TIMES U OVER LAGAB TIMES UqESH2qIr TIMES BADyUzaDrDrNrSALsHsIM5v OVER KISIM5qUr OVER H",
   "I TIMES ASH2 KU OVER HI TIMES ASH2r3r4s VARIANT FORMr7rLs GUNUrNrRs OPPOSING KURrSHU2qWU318pLA",
   "rGABu SQUAREDvTIMES Azd PLUS DA PLUS HAzjGARzjLALzdLzdNzdSH ZIDA TENUzcBADzdIzcDARzcENzcGAzeRz",
   "dIzdUDzf PLUS GUDzcHAzeLzdI TIMES NUNzcIGI GUNUzdMze PLUS HAzkLUzcKIzeNzdU3zeLzf PLUS HI PLUS ",
   "AzcLAGABzdISHzdUzeLzcMEze PLUS ENzdUSHzcNEzcSHE PLUS SUMzeITA PLUS GISH PLUS ERIN2zsTENUzeU2zg",
   " PLUS SHU2zdUMzcTAGzeK4zdE PLUS A PLUS SU PLUS NAzcUzd PLUS AzjU PLUS Uzd2 PLUS ASHzdDzdSHzcZU",
   " OVER ZUtRu GUNUza OVER LAGAR GUNU SHEvTIMES SHEzf PLUS SUMrHSHUrK-003u21v5u30u50v1u62u79 OVER",
   " LAK-079 GUNUu80v1 OVER LAK-081u92t130u42t210v9u20v5v8u38u65v6t343v7v8u83v4u90t441v9w TIMES GU",
   "zeIGIzePAP PLUS LU3znPAP PLUS LU3zeU2 PLUS BAu50v7u70u83u90v2v3v5t550t608u17w TIMES ASHzeBADze",
   "DUN3 GUNU GUNUzeKU3zeLAzeTARzfEzeU2zfDzfRUDAu36u48w TIMES DUBzeGAzeIGIzh GUNUzeNIzePAP PLUS PA",
   "P PLUS LU3zeSHESH PLUS KIzeUDzfRUDAt724u49rLs TIMES LALrMs TIMES KURzd PLUS RUqIrLrMMU2rSHqUr ",
   "TIMES BADr2s CROSSING LU2tGUNU TIMES ASHtOPPOSING LU2tSHESHIGzb TIMES BADuQUAREDtTENUuIMES ALz",
   "aBADzaDISHzaESH2ze PLUS LALzfTENUzaGAN2 TENUzaHALzbI TIMES BADzaIMzaKAD2zd3ze PLUS ASHzbIzaLA ",
   "PLUS ASHzcGABzaME PLUS ENzaNEzbUzaPAPzd PLUS PAP PLUS LU3zaSHUzbI PLUS ASHzcK2 PLUS BUzaTAK4zb",
   "UG2r3rGALu OPPOSING LUGALwVER LUGALvSHESHIGrHrLrMs OVER LUMzc GAR OVER GARpMAr GUNUsTIMES TAK4",
   "r2rHrRrSHt2qErSsHqIr PLUS ZA7rNqUr OVER MUrGs GUNUrNSUBrRGU2rSHt CROSSING MUSHuOVER MUSHze TIM",
   "ES A PLUS NAzlGAzlKAKuTIMES AzbKURzbZAt3u GUNUvTIMES Azd PLUS DIzcDIzcZApNAr2r4rGAt INVERTEDuO",
   "PPOSING NAGAuTIMES SHU TENUtRrMs NUTILLUs2qEr SHESHIGsTIMES AyUDqIr TIMES Er2rMs TIMES GAN2 TE",
   "NUzcR PLUS GAN2 TENUrNs9sDA2v TIMES ANzeSHzg PLUS ASHzdBALzdDIM GUNUzdGIzfSHzeUDzfLzdHIzdKESH2",
   "zdLAK-050zdMASHzeE PLUS GAN2 TENUzdNEzeUNzdPAP PLUS PAPzdSHEzg PLUS A ANznSHzp PLUS ASHzdUze P",
   "LUS Uze2 PLUS ASHzeRUDAzeSHrSAGqUr11t OVER NU11 BUR OVER BURuROTATED NINETY DEGREESuTENUrNs CR",
   "OSSING NUNzg LAGAR OVER LAGARtLAGAR TIMES GARzgMASHzgSALzj OVER NUN LAGAR TIMES SALzgUSHtOVER ",
   "NUNtTENUsUZu AB2 TIMES ASHGABzgBIzgDUGzgGUDzgIGI GUNUzgKAD3zgLAzgNEzgSILA3zgU2vKISIM5 TIMES BI",
   "zl UpPArDrNrPqESH2u ASTERISKqIr CROSSING PIsTIMES AzaByBIzaUyEyIzaByUza2rR2sIGu OPPOSING PIRIG",
   "vTIMES KALzcUDzcZApRArBqIqUpSArGs GUNUx TIMES HAtNUTILLUtOVER SAGtTIMES AzaDUzcBzaENzaHAzaIGI ",
   "GUNUzaKAKzbURzaLUMzaMIzaNUNzaSALzbHE AT LEFTzcIDzaTABzcK4zaU2zbBzbMzbRzbSHrLs LAGAB TIMES ASH2",
   "rNGA2rRqHAs3t TIMES AzbBADzbGISHzbNEzbSHU2zbTURzbUzc PLUS As6t TENUsB6sR2rEs HUtOVER SHEzc GAD",
   " OVER GAD GAR OVER GARzdTAB OVER TAB GAR OVER GARtPLUS HUB2yNAM2ySARsG9sNsSHu2uLAMrIDt TIMES A",
   "zbIMsMt TIMES AzbBALzcULUGzbDINzbGARzbIGIze GUNUzbKUSHU2zbLULzbMUGzbSALsNIGsRt OVER SHIR BUR O",
   "VER BURuTENUsTArUs OVER INVERTED SHUs2t PLUS DUG TIMES NIzaE2 TIMES ANsBURqIr GUNUsTIMES TAK4r",
   "Gs4t OVER SIG4 SHU2rK2rLA3qUr OVER SUrDs2rHURrMsASHrRs9pTAr ASTERISKsGUNUsTIMES HIyMIrBs OVER ",
   "TAB NI OVER NI DISH OVER DISHtSQUAREDrGs TIMES BIzaGUDzaSHEzcUzaTUG2zaUDrK4t PLUS SAGrRqEr GUN",
   "UqIr TENUr2rLrRs OVER TIRzc GAD OVER GAD GAR OVER GARtTIMES TAK4qUrG2rKrMs TIMES GAN2 TENUzaTH",
   "REE DISHrRs OVER TUR ZA OVER ZApUq GUDrOVER U PA OVER PA GAR OVER GARySUR OVER SURyU REVERSED ",
   "OVER U REVERSEDrUs Uq2qBqDr GUNUsKUSHU2sSHESHIGza TIMES BADsTIMES BADyMIyU PLUS U PLUS Uzo GUN",
   "UrUGqMr TIMES LAGAByMEzb PLUS DAySHA3yUrBINrUMt TIMES KASKALzbPAqNr GUNUqRr CROSSING URsSHESHI",
   "Gr2s INVERTEDtTIMES A PLUS HAzhNAzbLzaHAzaNUNzaU2zc PLUS ASHziBIzbDr4rIs3rUs TIMES AzbSHGABzaB",
   "ARzaDARA3zbUNzaGAzcLzcN2 TENUzcRzbUzaHAzaIGIzbMzbSHzaKIzaLAK-668zbU3zcMzaMINzaPAzaSHEzbIG4zaTU",
   "zaU PLUS GUDzbDzbRUDAsDAu TIMES UqSHs TIMES AzaKUzcRzaTAK4s2sUMXsXqTUKIqZ3s TIMES KASKALrUpZAr",
   " SQUARED TIMES KURsTENUr7rGrMXqE2qIr OVER ZIr3rBs KABA TENUrGrZ2qUr OVER ZU PLUS SARr5s TIMES ",
   "AzaTHREE DISH TENUrBURrMcP ON BLACK SQUAREeWITH STRAWdCAKEdIDOcRLING STONEeY BRACKET EXTENSION",
   "gLOGICAL ANDoORiOPdRENCY EXCHANGEjSIGNeY AND RICEdVED STEM PARAGRAPH SIGN ORNAMENTcSTARDeOMScT",
   " OF MEATbYCLONEcLINDRICITYcPRIOT SYLLABLE ArErIrJAsOrKAsEsIsOsUrLAsEsIsOsUrMAsEsIsOsUrNAsEsIsO",
   "sUrOrPAsEsIsOsUrRAsEsIsOsUrSAsEsIsOsUrTAsEsIsOsUrUrWAsEsIsOrXAsErZAsOeO-MINOAN SIGN CM001w2w4w",
   "5w6w7w8w9v10w1w2xBw3w5w7w9v21w3w4w5w6w7w8w9v30w3w4w5w6w7w8w9v40w1w4w6w7w9v50w1w2w3w4w5w6w8w9v6",
   "0w1w2w3w4w6w7w8w9v70w1w2w3w4w5xBw6w8w9v80w1w2w3w4w5w6w7w8w9v90w1w2w4w5w6w7w8w9u100w1w2w3w4w5w7",
   "w8w9v10w2w4u301w2cRILLIC CAPITAL LETTER Aza WITH BREVEzgDIAERESISzaBKHASIAN CHEzm WITH DESCEND",
   "ERzjDZEzjHAzaLEUT KAyBARRED Ozh WITH DIAERESISzbSHKIR KAzaEzaIG YUSzbNOCULAR OzaLENDED YUSzaRO",
   "AD OMEGAzaYELORUSSIAN-UKRAINIAN IyCCHEzaHEzc WITH DESCENDERzjIAERESISziVERTICAL STROKEzaLOSED ",
   "LITTLE YUSzaROSSED OyDCHEzaEzaJEzcRVzaOUBLE MONOCULAR OzgOzaWEzaZEzcLOzbHEzbWEzbZEzcHEyEza WIT",
   "H DIAERESISzaFzaLzb WITH DESCENDERzhHOOKzhMIDDLE HOOKzhTAILzaMzb WITH TAILzaNzb WITH DESCENDER",
   "zhHOOKzhLEFT HOOKzhMIDDLE HOOKzhTAILzaRzb WITH TICKzaSzb WITH DESCENDERyFITAyGHEzc WITH DESCEN",
   "DERziMIDDLE HOOKziSTROKEzo AND HOOKziUPTURNzaJEyHAzb WITH DESCENDERzhHOOKzhSTROKEzbRD SIGNzaWE",
   "yIza WITH DIAERESISzgGRAVEzgMACRONzaEzb WITH BREVEzhGRAVEzaOzbTAzcIFIED AziBIG YUSziCLOSED LIT",
   "TLE YUSziEziLITTLE YUSziYATzaZHITSAzg WITH DOUBLE GRAVE ACCENTyJEyKAzb WITH DESCENDERzhHOOKzhS",
   "TROKEzhVERTICAL STROKEzaHAKASSIAN CHEzaJEzaOMI DEzfJEzfZJEzeLJEzeNJEzeSJEzeTJEzeZJEzbPPAzaSIyL",
   "HAzaITTLE YUSzaJEyMONOCULAR OzdGRAPH UKyNEUTRAL YERzaJEyOza WITH DIAERESISzaMEGAze WITH TITLOz",
   "aTyPEzb WITH DESCENDERzhMIDDLE HOOKzaSIyQAyREVERSED DZEziTSEziYUziZEzaHAzaOUND OMEGAySCHWAze W",
   "ITH DIAERESISzaEMISOFT SIGNzaHAzbCHAzbHAzd WITH DESCENDERzbORT Izg WITH TAILzfUzbWEzaOFT DEzeE",
   "LzfMzeSIGNzaTRAIGHT Uzj WITH STROKEyTCHEzaEzb WITH DESCENDERzhMIDDLE HOOKzaSEzbHEzbSEzbWEzaWEy",
   "Uza WITH DIAERESISzhOUBLE ACUTEzgMACRONzaKzbRAINIAN IEyVEyWEyYAzbEzbTzaERUzd WITH BACK YERzjDI",
   "AERESISzaIzaNzaUyZEzb WITH DESCENDERziIAERESISzbMLYAzaHEzc WITH BREVEziDESCENDERzjIAERESISzbWE",
   "sIGATURE A IEzbEN GHEzbTE TSEjKAVYKAjLETTER MULTIOCULAR OqPALOCHKAqSMALL CAPITAL ELjPAYEROKjSM",
   "ALL LETTER Ax WITH BREVEzeDIAERESISxBKHASIAN CHEzk WITH DESCENDERzhDZEzhHAxLEUT KAwBARRED Ozf ",
   "WITH DIAERESISySHKIR KAxExIG YUSyNOCULAR OxLENDED YUSxROAD OMEGAxYELORUSSIAN-UKRAINIAN IwCCHEx",
   "HEza WITH DESCENDERzhIAERESISzgVERTICAL STROKExLOSED LITTLE YUSxROSSED OwDCHExExJEzaRVxOUBLE M",
   "ONOCULAR OzeOxWExZEzaLOyHEyWEyZEzaHEwEx WITH DIAERESISxFxLy WITH DESCENDERzfHOOKzfMIDDLE HOOKz",
   "fTAILxMy WITH TAILxNy WITH DESCENDERzfHOOKzfLEFT HOOKzfMIDDLE HOOKzfTAILxRy WITH TICKxSy WITH ",
   "DESCENDERwFITAwGHEza WITH DESCENDERzgMIDDLE HOOKzgSTROKEzm AND HOOKzgUPTURNxJEwHAy WITH DESCEN",
   "DERzfHOOKzfSTROKEyRD SIGNxWEwIx WITH DIAERESISzeGRAVEzeMACRONxEy WITH BREVEzfGRAVExOyTAzaIFIED",
   " AzgBIG YUSzgCLOSED LITTLE YUSzgEzgLITTLE YUSzgYATxZHITSAze WITH DOUBLE GRAVE ACCENTwJEwKAy WI",
   "TH DESCENDERzfHOOKzfSTROKEzfVERTICAL STROKExHAKASSIAN CHExJExOMI DEzdJEzdZJEzcLJEzcNJEzcSJEzcT",
   "JEzcZJEyPPAxSIwLHAxITTLE YUSxJExONG-LEGGED DEwMONOCULAR OzbGRAPH UKwNARROW OxEUTRAL YERxJEwOx ",
   "WITH DIAERESISxMEGAzc WITH TITLOxTwPALOCHKAxEy WITH DESCENDERzfMIDDLE HOOKxSIwQAwREVERSED DZEz",
   "gTSEzgYUzgZExHAxOUND OMEGAzcED VEwSCHWAzc WITH DIAERESISxEMISOFT SIGNxHAyCHAyHAzb WITH DESCEND",
   "ERyORT Ize WITH TAILzdUyWExOFT DEzcELzdMzcSIGNxTRAIGHT Uzh WITH STROKEwTALL HARD SIGNzcTEzcYAT",
   "xCHExEy WITH DESCENDERzfMIDDLE HOOKxHREE-LEGGED TExSEyHEySEyWExWEwUx WITH DIAERESISzfOUBLE ACU",
   "TEzeMACRONxKyRAINIAN IExNBLENDED UKwVEwWExIDE ESwYAyEyTxERUzb WITH BACK YERzhDIAERESISxIxNxUwZ",
   "Ey WITH DESCENDERzgIAERESISyMLYAxHEza WITH BREVEzgDESCENDERzhIAERESISyWEqIGATURE A IEyEN GHEyT",
   "E TSEjTHOUSANDS SIGN"]

end SystemDynamics.Text
