/-!
# Names of characters, D to K

The names of the characters of Unicode 14 and their other names that begin with the letters D to
K, in order. Small letters before a name say how many characters it shares with the name before
it: `a` is none, `b` is one, and a `z` adds 25 to the letter behind it. What follows is the rest of
the name. Names that are written by a rule are left out.
-/

namespace SystemDynamics.Text

/-- The names, a piece a line; names go on from one line to the next. -/
def namesDToK : List String :=
  ["aDAGGERg KNIFEhWITH LEFT GUARDmRIGHT GUARDcLET SYMBOLcNCERdGOcRK SHADEgUNGLASSEScSH SYMBOLfWIT",
   "H LEFT UPTURNeED LOW LINEhOVERLINEhTRIANGLE-HEADED RIGHTWARDS ARROWcTA LINK ESCAPEbC1c2c3c4cSb",
   "EAF PERSONcCIDUOUS TREEeMAL EXPONENT SYMBOLiSEPARATOR KEY SYMBOLdREASE FONT SIZE SYMBOLcERcGRE",
   "E CELSIUShFAHRENHEIThSIGNcLdETEdIVERY TRUCKdTA EQUAL TOcNTISTRY SYMBOL LIGHT DOWN AND HORIZONT",
   "ALzr WITH CIRCLEzxTRIANGLEzxWAVExUP AND HORIZONTALzp WITH CIRCLEzvTRIANGLEzvWAVExVERTICAL AND ",
   "BOTTOM LEFTzsRIGHTzlTOP LEFTzpRIGHTzlWAVEzhWITH CIRCLEzmTRIANGLEcPARTMENT STOREcRELICT HOUSE B",
   "UILDINGcSCENDING NODEdERET CAPITAL LETTER AYxBEExCHEExDEExEFyLyMyNzaGyRySzaHyTHyWxGAYxHxJEExKA",
   "YxLONG AzeHzdEzdIzdOzeOxOIyWxPEExSHORT AzfHzeEzeIzeOzfOxTEEyHEExVEExWUxYEExZEEyHEEiSMALL LETTE",
   "R AYvBEEvCHEEvDEEvEFwLwMwNxGwRwSxHwTHwWvGAYvHvJEEvKAYvLONG AzcHzbEzbIzbOzcOvOIwWvPEEvSHORT Azd",
   "HzcEzcIzcOzdOvTEEwHEEvVEEvWUvYEEvZEEwHEEfTg ISLANDdKTOP COMPUTERiWINDOWcVANAGARI ABBREVIATION ",
   "SIGNmCUTE ACCENTlCARETlDANDAmIGIT EIGHTrFIVEsOURrNINErONErSEVENsIXrTHREEsWOrZEROmOUBLE DANDAlG",
   "AP FILLERmRAVE ACCENTlHEADSTROKElJAIN OMlLETTER AtAtItUtWtYsBAtBAtHAsCAuNDRA AzaEzaOtHAsDAtDAu",
   "DAvHAuHAtHAsEsFAsGAtGAtHAuHAtLOTTAL STOPsHAtEAVY YAsItIsJAtHAtJAsKAtHAuHAsLAtLAuLAsMAuRWARI DD",
   "AsNAtGAtNAuNAtYAsOtEtOEsPAtHAsQAsRAtHAtRAsSAtHAuORT AyEyOtSAsTAtHAtTAuHAsUtEtUuEsVAtOCALIC Lzc",
   "LzbRzcRsYAtYAsZAtHAlOMlSIGN ANUSVARArVAGRAHAqCANDRABINDUzc AVAGRAHAzdTHREEzeWOzdVIRAMAqDOUBLE ",
   "CANDRABINDU VIRAMAqHIGH SPACING DOTqINVERTED CANDRABINDUqNUKTAqPUSHPIKAqSIDDHAMrPACING CANDRAB",
   "INDUqVIRAMAsSARGAmTRESS SIGN ANUDATTAxUDATTAlVOWEL SIGN AAxIxUxWxYwCANDRA EzeLONG EzeOwEwIxIwO",
   "xExOEwPRISHTHAMATRA EwSHORT EzdOwUxExUyEwVOCALIC LzgLzfRzgRdICE CONTROL FOURpONEpSTRINGpTHREEq",
   "WObIAERESISdMETER SIGNeOND OPERATORiSHAPE WITH A DOT INSIDEiTARGETiWITH BOTTOM HALF BLACKnLEFT",
   " HALF BLACKnRIGHT HALF BLACKnTOP HALF BLACKcE FACE-1j2j3j4j5j6dSEL LOCOMOTIVEcFFERENCE BETWEEN",
   "cGIT EIGHTl COMMAmFULL STOPgFIVEk COMMAlFULL STOPhOURk COMMAlFULL STOPgNINEk COMMAlFULL STOPgO",
   "NEj COMMAkFULL STOPgSEVENl COMMAmFULL STOPhIXj COMMAkFULL STOPgTHREEl COMMAmFULL STOPhWOj COMM",
   "AkFULL STOPgZEROk COMMAlFULL STOPdRAM FOR EARTHqLY HEAVENuUMANlGREATER YANGuINlHEAVENLY EARTHm",
   "UMAN EARTHlLESSER YANGtINcMENSION ORIGINcNGBAT CIRCLED SANS-SERIF DIGIT EIGHTziFIVEzjOURziNINE",
   "ziONEziSEVENzjIXziTHREEzjWOziZEROzcNUMBER TENiNEGATIVE CIRCLED DIGIT EIGHTzgFIVEzhOURzgNINEzgO",
   "NEzgSEVENzhIXzgTHREEzhWOzaNUMBER TENzaSANS-SERIF DIGIT EIGHTzrFIVEzsOURzrNINEzrONEzrSEVENzsIXz",
   "rTHREEzsWOzrZEROzlNUMBER TENcRECT CURRENT SYMBOL FORM TWOhHITcSABLED CARePPOINTED BUT RELIEVED",
   " FACEnFACEdCONTINUOUS UNDERLINE SYMBOLdGUISED FACEcTTO MARKcVES AKURU DIGIT EIGHTsFIVEtOURsNIN",
   "EsONEsSEVENtIXsTHREEtWOsZEROnOUBLE DANDAmEND OF TEXT MARKmGAP FILLERmINITIAL RAmLETTER AuAtBAu",
   "HAtCAuHAtDAuDAvHAuHAtEtGAuHAtHAtIuItJAtKAuHAtLAuLAtMAtNAuGAuNAuYAtOtPAuHAtRAtSAuHAuSAtTAuHAuTA",
   "tUuUtVAtYAuYAtZAmMEDIAL RAtYAmPREFIXED NASAL SIGNmSIGN ANUSVARArCANDRABINDUrHALANTArNUKTAmVIRA",
   "MAnOWEL SIGN AAyIxExIyIxOxUyUdIDESeNG MASKeSION SIGNkLASHjTIMESdORCE SYMBOLcYA LAMPcZZY FACEgS",
   "YMBOLbLEbNA DOUBLE HELIXbO NOT LITTER SYMBOLcCUMENTi WITH PICTUREoTEXTs AND PICTUREcDOcES NOT ",
   "CONTAIN AS MEMBERuNORMAL SUBGROUPzk OR EQUALjDIVIDEp WITH REVERSED NEGATION SLASHjFORCEjPRECED",
   "Eq OR EQUALlOVEjSUCCEEDq OR EQUALcGd FACEdRA ABBREVIATION SIGNgLETTER AoAoIoUnBAoHAnCAoHAnDAoD",
   "ApHAoHAnEnGAoHAnHAnIoInJAoHAnKAoHAnLAnMAnNAoGAoNAoYAnOnPAoHAnRAoRAnSAoHAoSAnTAoHAoTApHAnUoUnVA",
   "nYAgSIGN ANUSVARAlNUKTAlVIRAMAnSARGAgVOWEL SIGN AAsIsUrErIsIrOrUsUrVOCALIC RzbRcLLAR SIGNdPHIN",
   "cMINO TILE HORIZONTAL BACKw-00-00zc1zc2zc3zc4zc5zc6y1-00zc1zc2zc3zc4zc5zc6y2-00zc1zc2zc3zc4zc5",
   "zc6y3-00zc1zc2zc3zc4zc5zc6y4-00zc1zc2zc3zc4zc5zc6y5-00zc1zc2zc3zc4zc5zc6y6-00zc1zc2zc3zc4zc5zc",
   "6mVERTICAL BACKu-00-00za1za2za3za4za5za6w1-00za1za2za3za4za5za6w2-00za1za2za3za4za5za6w3-00za1",
   "za2za3za4za5za6w4-00za1za2za3za4za5za6w5-00za1za2za3za4za5za6w6-00za1za2za3za4za5za6cNG SIGNcO",
   "RcT ABOVEeMINUSeOPERATORePLUSdTED CIRCLEiROSShFENCEhLINE FACEhOBELOShRIGHT-POINTING ANGLEhSOLI",
   "DUSiQUAREhTRANSPOSITION MARKERcUBLE ACUTE ACCENThCIRCLED DIGIT EIGHTvFIVEwOURvNINEvONEvSEVENwI",
   "XvTHREEwWOpNUMBER TENiOLON EQUALiURLY LOOPhDAGGERiOWN TACKhEXCLAMATION MARKhHIGH-REVERSED-9 QU",
   "OTATION MARKiYPHENhINTEGRALlRSECTIONhLEFT ARC GREATER-THAN BRACKETiOGICAL ANDpORjW LINEk-9 QUO",
   "TATION MARKlREVERSED-9 QUOTATION MARKhNESTED GREATER-THANoLESS-THANx WITH UNDERBARhOBLIQUE HYP",
   "HENhPLUSiRECEDESjIMEm QUOTATION MARKhQUESTION MARKhRIGHT ARC LESS-THAN BRACKEThSOLIDUS OPERATO",
   "RiQUARE INTERSECTIONoUNIONiTACKED COMMAjROKE NOT SIGNiUBSETjCCEEDSjPERSETjSPENSION MARKhUNIONi",
   "P TACKhVERTICAL BARt DOUBLE LEFT TURNSTILEzcRIGHT TURNSTILEuLEFT TURNSTILEqLINEhWAVY OVERLINEg",
   "-ENDED MULTIMAPhLINE EQUAL TO OR GREATER-THANyLESS-THANmSLANTED EQUAL TO OR GREATER-THANzhLESS",
   "-THANuGREATER-THAN OR EQUAL TOuLESS-THAN OR EQUAL TOhSTRUCK CAPITAL CwGAMMAwHwNwPxIwQwRwZoITAL",
   "IC CAPITAL DvSMALL DzcEzcIzcJoN-ARY SUMMATIONoSMALL GAMMAuPIgD FEMALE SIGNiMALE SIGNiSYMBOLdGH",
   "NUTcVE OF PEACEcWN ARROWHEADfFISH TAILfRIGHT DIAGONAL ELLIPSISfTACKj WITH CIRCLE BELOWe-POINTI",
   "NG RED TRIANGLEoSMALL RED TRIANGLEoTRIANGLE WITH LEFT HALF BLACKzdRIGHT HALF BLACKeWARD FACING",
   " HOOKu WITH DOTqNOTCHED HOOKzd WITH DOTiS ANCORAlRROWp AND RIGHT ONE EIGHTH BLOCKqFROM BARqLEF",
   "TWARDS OF UPWARDS ARROWqTO BARqWITH CORNER LEFTWARDSvDOUBLE STROKEvEQUILATERAL ARROWHEADvHORIZ",
   "ONTAL STROKEvLARGE TRIANGLE ARROWHEADvMEDIUM TRIANGLE ARROWHEADvNOTCHED TAILvSMALL EQUILATERAL",
   " ARROWHEADzcTRIANGLE ARROWHEADvTIP LEFTWARDSzaRIGHTWARDSkBLACK ARROWqCIRCLED WHITE ARROWkCOMPR",
   "ESSED ARROWkDASHED ARROWlOUBLE ARROWkFINGER-POST ARROWkHARPOON WITH BARB LEFT BESIDE DOWNWARDS",
   " HARPOON WITH BARB RIGHTzpUPWARDS HARPOON WITH BARB RIGHTziFROM BARziTO BARzhWARDSzdRIGHT FROM",
   " BARzjTO BARziWARDSlEAVY ARROWqCOMPRESSED ARROWkPAIRED ARROWSkQUADRUPLE ARROWkROCKETkSANS-SERI",
   "F ARROWlQUARED ARROWkTRIANGLE ARROWHEADs-HEADED ARROWzg LEFTWARDS OF UPWARDS TRIANGLE-HEADED A",
   "RROWzhTO BARzhWITH BOLD SHAFTzmDOUBLE HORIZONTAL STROKEzmHEAVY SHAFTzmLONG TIP LEFTWARDSzvRIGH",
   "TWARDSzmMEDIUM SHAFTzmNARROW SHAFTzmVERY HEAVY SHAFTzbDASHED ARROWzbPAIRED ARROWSzbZIGZAG ARRO",
   "WnPLE ARROWlWO HEADED ARROWn-HEADED ARROW WITH TRIANGLE ARROWHEADSkWHITE ARROWv WITHIN TRIANGL",
   "E ARROWHEADkZIGZAG ARROWbRACHMA SIGNdFTING POINT RIGHTWARDS ARROWdGONg FACEcESScIVE SLOW SIGNc",
   "OMEDARY CAMELdOLING FACEdP OF BLOODeLETcUM WITH DRUMSTICKSbUCKcMPLINGcPLOYAN AFFIX ATTACHED E ",
   "HOOKyI HOOKyLEFT-TO-RIGHT SECANTySECANTyTAILzbNGENTzg HOOKpHIGH ACUTEuCIRCLEuDOTuGRAVEuLINEvON",
   "G GRAVEuTIGHT ACUTEuVERTICALzd SECANTuWAVEpLEFT HORIZONTAL SECANTqOW ACUTEuRROWtCIRCLEtDOTtGRA",
   "VEtLINEuONG GRAVEtTIGHT ACUTEtVERTICALzc SECANTtWAVEpMID HORIZONTAL SECANTtVERTICAL SECANTpRIG",
   "HT HORIZONTAL SECANTjDOUBLE MARKjLETTER ArOUqBqDr SrHqErErUqFr NqGr R SqHrLqIrEqJr Mt SsNt SsS",
   "t WITH DOTsWITH DOTzbS INSIDE AND ABOVEqKr MsR SrKqLrHrONG IvUqMr Nt SsSsWITH DOTqNr Mt SsSsWI",
   "TH DOTrASAL AwIwOwUqOrArOHrUrWqPr NrERNIN AMyNqRr SrHrOMANIAN IzaUqSr Jt SsKt RsMsNsPt RsSsTt ",
   "RsWITH DOTzb BELOWrHORT IrLOAN ANwDHwEExHxNwJwONxWwUqTr R SsSrHqUr NrHrIqVrOCALIC MqWr RrArEIr",
   "HrIrOsWqXrWqYEjPUNCTUATION CHINOOK FULL STOPjSIGN O WITH CROSSjTHICK LETTER SELECTORbVDaE-MAIL",
   " SYMBOLbAGLEcRd OF MAIZEhRICEeWITH HEARING AIDdTHf GLOBE AMERICASnSIA-AUSTRALIAmEUROPE-AFRICAh",
   "ROUNDcST SYRIAC CROSSbDITORIAL CORONISbGGcYPTIAN HIEROGLYPH A001x2x3x4x5yAx6yAyBx7x8x9w10x1x2x",
   "3x4yAx5x6x7yAx8x9w20x1x2x3x4x5x6x7x8x9w30x1x2yAx3x4x5x6x7x8x9w40yAx1x2yAx3yAx4x5yAx6x7x8x9w50x",
   "1x2x3x4x5x6x7x8x9w60x1x2x3x4x5x6x7x8x9w70vA001y2y3y4y5y6y7zaAzaBy8y9x10y1y2y3y4y5y6y7y8y9x20y1",
   "y2y3y4y5y6y7y8y9x30y1y2uB001x2x3x4x5yAx6x7x8x9vEGIN SEGMENTuC001x2yAyByCx3x4x5x6x7x8x9w10yAx1x",
   "2x3x4x5x6x7x8x9w20x1x2x3x4uD001x2x3x4x5x6x7x8yAx9w10x1x2x3x4x5x6x7x8x9w20x1x2x3x4x5x6x7yAx8x9w",
   "30x1yAx2x3x4yAx5x6x7x8x9w40x1x2x3x4x5x6yAx7x8yAx9w50yAyByCyDyEyFyGyHyIx1x2yAx3x4yAx5x6x7x8x9w6",
   "0x1x2x3x4x5x6x7yAyByCyDyEyFyGyHuE001x2x3x4x5x6x7x8yAx9yAw10x1x2x3x4x5x6yAx7yAx8x9w20yAx1x2x3x4",
   "x5x6x7x8yAx9w30x1x2x3x4yAx6x7x8vND SEGMENTuF001yAx2x3x4x5x6x7x8x9w10x1x2x3yAx4x5x6x7x8x9w20x1y",
   "Ax2x3x4x5x6x7x8x9w30x1yAx2x3x4x5x6x7yAx8yAx9w40x1x2x3x4x5yAx6yAx7yAx8x9w50x1yAyByCx2x3uG001x2x",
   "3x4x5x6yAx7yAyBx8x9w10x1yAx2x3x4x5x6x7x8x9w20yAx1x2x3x4x5x6yAx7x8x9w30x1x2x3x4x5x6yAx7yAx8x9w4",
   "0x1x2x3yAx4x5yAx6x7x8x9w50x1x2x3x4uH001x2x3x4x5x6yAx7x8vORIZONTAL JOINERuI001x2x3x4x5yAx6x7x8x",
   "9yAw10yAx1yAx2x3x4x5vNSERT AT BOTTOM ENDzmSTARTzfTOP ENDzjSTARTuK001x2x3x4x5x6x7x8uL001x2yAx3x",
   "4x5x6yAx7x8uM001yAyBx2x3yAx4x5x6x7x8x9w10yAx1x2yAyByCyDyEyFyGyHx3x4x5yAx6yAx7yAx8x9w20x1x2yAx3",
   "x4yAx5x6x7x8yAx9w30x1yAx2x3yAyBx4x5x6x7x8x9w40yAx1x2x3x4uN001x2x3x4x5x6x7x8x9w10x1x2x3x4x5x6x7",
   "x8yAyBx9w20x1x2x3x4x5yAx6x7x8x9w30x1x2x3yAx4yAx5yAx6x7yAx8x9w40x1x2vL001y2y3y4y5zaAy6y7y8y9x10",
   "y1y2y3y4y5y6y7zaAy8y9x20vU001y2y3y4y5y6y7y8y9x10zaAy1zaAy2y3y4y5y6y7y8zaAy9x20y1y2zaAuO001yAx2",
   "x3x4x5yAx6yAyByCyDyEyFx7x8x9w10yAyByCx1x2x3x4x5x6x7x8x9yAw20yAx1x2x3x4yAx5yAx6x7x8x9yAw30yAx1x",
   "2x3yAx4x5x6yAyByCyDx7x8x9w40x1x2x3x4x5x6x7x8x9w50yAyBx1vVERLAY MIDDLEuP001yAx2x3yAx4x5x6x7x8x9",
   "w10x1uQ001x2x3x4x5x6x7uR001x2yAx3yAyBx4x5x6x7x8x9w10yAx1x2x3x4x5x6yAx7x8x9w20x1x2x3x4x5x6x7x8x",
   "9uS001x2yAx3x4x5x6yAx7x8x9w10x1x2x3x4yAyBx5x6x7yAx8x9w20x1x2x3x4x5x6yAyBx7x8x9w30x1x2x3x4x5yAx",
   "6x7x8x9w40x1x2x3x4x5x6uT001x2x3yAx4x5x6x7yAx8yAx9yAw10x1yAx2x3x4x5x6yAx7x8x9w20x1x2x3x4x5x6x7x",
   "8x9w30x1x2yAx3yAx4x5x6uU001x2x3x4x5x6yAyBx7x8x9w10x1x2x3x4x5x6x7x8x9w20x1x2x3yAx4x5x6x7x8x9yAw",
   "30x1x2yAx3x4x5x6x7x8x9w40x1x2uV001yAyByCyDyEyFyGyHyIx2yAx3x4x5x6x7yAyBx8x9w10x1yAyByCx2yAyBx3x",
   "4x5x6x7x8x9w20yAyByCyDyEyFyGyHyIyJyKyLx1x2x3yAx4x5x6x7x8yAx9yAw30yAx1yAx2x3yAx4x5x6x7yAx8x9w40",
   "yAvERTICAL JOINERuW001x2x3yAx4x5x6x7x8x9yAw10yAx1x2x3x4yAx5x6x7yAx8yAx9w20x1x2x3x4yAx5uX001x2x",
   "3x4yAyBx5x6yAx7x8yAuY001yAx2x3x4x5x6x7x8uZ001x2yAyByCyDx3yAyBx4yAx5yAx6x7x8x9w10x1x2x3x4x5yAyB",
   "yCyDyEyFyGyHyIx6yAyByCyDyEyFyGyHbIGHT PETALLED OUTLINED BLACK FLORETTEhOINTED BLACK STARoPINWH",
   "EEL STARoRECTILINEAR BLACK STARgSPOKED ASTERISKgTEARDROP-SPOKED PROPELLER ASTERISKfH NOTEbJECT",
   " SYMBOLbLBASAN LETTER ApBEpCEqHEpDEqHEpEqIpFEpGEqHAMMArEqJEpHEpIpJEpKEqHEpLEqLEpMEpNAqDEqEqJEp",
   "OpPEpQEpREqREpSEqHEpTEqHEpUpVEpXEpYpZEqHEcECTRIC ARROWjLIGHT BULBjPLUGjTORCHiAL INTERSECTIONdM",
   "ENT OFk OPENING DOWNWARDStUPWARDSlWITH DOT ABOVEqLONG HORIZONTAL STROKEqOVERBARqTWO HORIZONTAL",
   " STROKESqUNDERBARqVERTICAL BAR AT END OF HORIZONTAL STROKEdPHANTdVATORcFcYMAIC LETTER ALEPHqYI",
   "NpBETHpDALETHpGIMELpHErTHpKAPHpLAMEDHpMEMpNUNpPEpQOPHpRESHpSADHErMEKHqHINpTAWqETHpWAWpYODHpZAY",
   "INjIGATURE ZAYIN-YODHbM DASHdQUADdSPACEcOJI COMPONENT BALDqCURLY HAIRqRED HAIRqWHITE HAIRgMODI",
   "FIER FITZPATRICK TYPE-1-2zh3zh4zh5zh6cPHASIS SYMBOLdTY DOCUMENTgNESThOTEk PADnGEgPAGEkSgSETj W",
   "ITH LEFT ARROW ABOVEpOVERBARpRIGHT ARROW ABOVEpSMALL CIRCLE ABOVEbN DASHdQUADdSPACEcD OF GUARD",
   "ED AREAhLINEhMEDIUMhPROOFkTECTED AREAhSELECTED AREAhTEXTiRANSMISSIONt BLOCKeWITH LEFTWARDS ARR",
   "OW ABOVEcQdUIRYcTER SYMBOLcVELOPEi WITH DOWNWARDS ARROW ABOVEoLIGHTNINGbOLcMcTbPAbQUAL AND PAR",
   "ALLEL TOgTO BY DEFINITIONjOR GREATER-THANmLESS-THANmPRECEDESmSUCCEEDSfS COLONhSIGNl ABOVE LEFT",
   "WARDS ARROWsPLUS SIGNsRIGHTWARDS ARROWsTILDE OPERATORnND SLANTED PARALLELzh WITH TILDE ABOVEmW",
   "ITH BUMPY ABOVErDOT BELOWrINFINITY BELOWrTWO DOTS ABOVE AND TWO DOTS BELOWhWITH ASTERISKdIANGU",
   "LAR TOeVALENT TOlWITH FOUR DOTS ABOVEbRASE TO THE LEFTnRIGHTcIS FORM ONEkTWOcROR-BARRED BLACK ",
   "CIRCLEtDIAMONDtSQUAREnWHITE CIRCLEtDIAMONDtSQUAREbSAcCdAPEcTIMATED SYMBOLiSbTBcHIOPIC COLONlMB",
   "INING GEMINATION AND VOWEL LENGTH MARKzfMARKtVOWEL LENGTH MARKmMAjDIGIT EIGHTpFIVEqOURpNINEpON",
   "EpSEVENqIXpTHREEqWOjFULL STOPjNUMBER EIGHTYqFIFTYrORTYqHUNDREDqNINETYqSEVENTYrIXTYqTENt THOUSA",
   "NDrHIRTYrWENTYjPARAGRAPH SEPARATORkREFACE COLONjQUESTION MARKjSECTION MARKlMICOLONkYLLABLE BAu",
   "AtBAvAuEvEuIuOuUtEuEtItOuAtUtWAuEvEuIsCAuAtCAvAuEvEuHAwAvEwEvHAxAwExEwIwOwUvIvOvUuIuOuUtEuEtHA",
   "vAuEvEuIuOvAuUuWAtItOuAtUtWAsDAuAtDAvAuEvEuHAAvEwEvIvOvUuIuOvAuUuWAtEuEtItOuAtUtWAtZAAuEvEuIuO",
   "uUsFAuAtEuEtItOtUtWAuEvEuItYAsGAuAtEuEtGAvAuEvEuIuOuUuWAwAvEwEvItItLOTTAL AzcAzbEzcEzbIzbOzcAz",
   "bUzbWAtOuAtUuRAGE BWEEzcIzaFWEEzcIzaGWEzdEzcIzaHHWAzaKWEzdEzcIzaMWEEzcIzaPWEEzcIzaQWEzdEzcItWA",
   "vAuEvEuItYAvAuEvEuIuOuUsHAuAtEuEtHAvAuEvEuIuOuUuWAvEwEvIuYAwAvEwEvIvOvUtItOuAtUsJAuAtEuEtItOuA",
   "tUtWAsKAuAtEuEtItOuAtUtWAvAuEvEuItXAvAuEvEuIuOuUuWAwAvEwEvItYAvAuEvEuIuOuUsLAuAtEuEtItOuAtUtWA",
   "sMAuAtEuEtItOuAtUtWAuEvEuItYAsNAuAtEuEtItOuAtUtWAtYAvAuEvEuIuOvAuUuWAsPAuAtEuEtHAvAvRYNGEAL Az",
   "fAzeEzfEzeIzeOzeUuEvEuIuOvAuUuWAtItOuAtUtWAuEvEuIsQAuAtEuEtHAvAuEvEuIuOuUuWAwAvEwEvItItOuAtUtW",
   "AvAuEvEuItYAvAuEvEuIuOuUsRAuAtEuEtItOuAtUtWAtYAsSAuAtEuBATBEIT BWAzdFWAzdMWAzdPWAuEtHAvAuEvEuI",
   "uOvAuUuWAtItOuAtSAvAuEvEuIuOuUtUtWAtZAvAuEvEuIuOuUuWAsTAuAtEuEtHAvAuEvEuIuOvAuUuWAtItOuAtSAvAu",
   "EvEuIuOuUuWAtTHAAvEwEvIvOvUtUtWAtZAvAuEvEuIuOvAuUsVAuAtEuEtItOtUtWAsWAuAtEuEtItOuAtUsXAuAtEuEt",
   "ItOuAtUtWAvAuEvEuItYAvAuEvEuIuOuUsYAuAtEuEtItOuAtUsZAuAtEuEtHAvAuEvEuIuOuUuWAtItOuAtUtWAtZAvAu",
   "EvEuIuOuUjTONAL MARK CHIRETuDERETza-HIDETvIFATuHIDETuKENATvURTuRIKRIKuSHORT RIKRIKuYIZETjWORDS",
   "PACEcXbULER CONSTANTcRO SIGNe-CURRENCY SIGNePEAN CASTLEjPOST OFFICEbVERGREEN TREEbXCESSdLAMATI",
   "ON MARKmQUESTION MARKcPRESSIONLESS FACEcTENDED ARABIC-INDIC DIGIT EIGHTzdFIVEzeOURzdNINEzdONEz",
   "dSEVENzeIXzdTHREEzeWOzdZEROdRATERRESTRIAL ALIENeEMELY HEAVY FIVE SPOKED ASTERISKqGREEK CROSSqS",
   "ALTIRErIX SPOKED ASTERISKqWHITE CIRCLEwSQUAREbYEdGLASSESdSaFACE HOLDING BACK TEARSfMASSAGEfPAL",
   "MfSAVOURING DELICIOUS FOODgCREAMING IN FEARfTHROWING A KISSfWITH COLD SWEATmWBOY HATkDIAGONAL ",
   "MOUTHkFINGER COVERING CLOSED LIPSkHEAD-BANDAGEkLOOK OF TRIUMPHkMEDICAL MASKlONOCLEkNO GOOD GES",
   "TUREkOK GESTURElNE EYEBROW RAISEDlPEN EYES AND HAND OVER MOUTHpMOUTHu AND COLD SWEATvVOMITINGk",
   "PARTY HORN AND PARTY HATlEEKING EYElLEADING EYESkROLLING EYESkSTUCK-OUT TONGUEzb AND TIGHTLY-C",
   "LOSED EYESzgWINKING EYEkTEARS OF JOYlHERMOMETERkUNEVEN EYES AND WAVY MOUTHjOUT MOUTHdSIMILE SI",
   "GNdTORYcIRYcLAFELdLEN LEAFeING DIAGONAL CROSSING NORTH EAST ARROWzbRISING DIAGONALrIN WHITE CI",
   "RCLE IN BLACK SQUAREcMILYcRSI SYMBOLcTHER CHRISTMAScX ICONeMACHINEbEARFUL FACEdTHERcMALE SIGNd",
   "ININE ORDINAL INDICATORcNCERcRRIS WHEELeYbFbIELD HOCKEY STICK AND BALLcGURE DASHhSPACEcLE CABI",
   "NETfFOLDERfSEPARATORdM FRAMESfPROJECTORcNITE PART INTEGRALcREe ENGINEgXTINGUISHEReCRACKEReWORK",
   " SPARKLERiSdST PLACE MEDALgQUARTER MOONs SYMBOLtWITH FACEgSTRONG ISOLATEcSHe CAKE WITH SWIRL D",
   "ESIGNeEYEeING POLE AND FISHdTED HAND SIGNcVE DOT MARKjPUNCTUATIONbLAG IN HOLEdMINGOdT SHOEeBRE",
   "ADeNESScEUR-DE-LISdXED BICEPScOPPY DISKdRAL HEARTdWERg PLAYING CARDSiUNCTUATION MARKcUSHED FAC",
   "EcYdING DISChENVELOPEhSAUCERbOGdGYcLDERcNDUEcOTePRINTScR ALLdCESdK AND KNIFEo WITH PLATEeED PA",
   "RAGRAPHOSeINGdM FEEDdTUNE COOKIEcUNTAINdR BALLOON-SPOKED ASTERISKfCLUB-SPOKED ASTERISKgORNER A",
   "RROWS CIRCLING ANTICLOCKWISEfDOT MARKjPUNCTUATIONfLEAF CLOVERfPOINTED BLACK STARfTEARDROP-SPOK",
   "ED ASTERISKe-PER-EM SPACEeTH ROOTcX FACEbRACTION NUMERATOR ONEjSLASHdME WITH AN XlPICTURElTILE",
   "ScEEZING FACEdNCH FRANC SIGNjIEScIED SHRIMPcOG FACEdNT-FACING BABY CHICKgTILTED SHADOWED WHITE",
   " RIGHTWARDS ARROWdWNfING FACE WITH OPEN MOUTHbScIbUEL PUMPcLL BLOCKfMOON SYMBOLkWITH FACEfOUTE",
   "R JOINfSTOPeWIDTH AMPERSANDlPOSTROPHElSTERISKkBROKEN BARkCENT SIGNlIRCUMFLEX ACCENTlOLONmMMAoE",
   "RCIAL ATkDIGIT EIGHTqFIVErOURqNINEqONEqSEVENrIXqTHREErWOqZEROlOLLAR SIGNkEQUALS SIGNlXCLAMATIO",
   "N MARKkFULL STOPkGRAVE ACCENTmEATER-THAN SIGNkHYPHEN-MINUSkLATIN CAPITAL LETTER AzgBzgCzgDzgEz",
   "gFzgGzgHzgIzgJzgKzgLzgMzgNzgOzgPzgQzgRzgSzgTzgUzgVzgWzgXzgYzgZqSMALL LETTER AzeBzeCzeDzeEzeFze",
   "GzeHzeIzeJzeKzeLzeMzeNzeOzePzeQzeRzeSzeTzeUzeVzeWzeXzeYzeZlEFT CURLY BRACKETpPARENTHESISpSQUAR",
   "E BRACKETpWHITE PARENTHESISmSS-THAN SIGNlOW LINEkMACRONkNOT SIGNlUMBER SIGNkPERCENT SIGNlLUS S",
   "IGNlOUND SIGNkQUESTION MARKmOTATION MARKkREVERSE SOLIDUSlIGHT CURLY BRACKETqPARENTHESISqSQUARE",
   " BRACKETqWHITE PARENTHESISkSEMICOLONlOLIDUSkTILDEkVERTICAL LINEkWON SIGNkYEN SIGNcNCTION APPLI",
   "CATIONdERAL URNcSEbVS1d2d3d4aGAME DIEcRLICbEARe WITH HANDLESjOUT HUBcM STONEdINIcNIEcOMETRIC P",
   "ROPORTIONjALLY EQUAL TOrIVALENT TOdRGIAN CAPITAL LETTER AENzaNyBANyCANzaHARzbINzaILyDONyENyGAN",
   "zaHANyHAEzbRzaEzaIEzaOEyINyJHANzaILyKANzaHARyLASyMANyNARyONyPARzaHARyQARyRAEySANzaHINyTANzbRyU",
   "NyVINyWEyXANyYNyZENzaHARjLETTER AENrINrNqBANqCANrHARsINrILqDONqELIFIrNqFIqGANrHANqHAEsRtD SIGN",
   "rErIErOEqINqJHANrILqKANrHARqLABIAL SIGNsSqMANqNARqONqPARrHARqQARqRAEqSANrHINqTANsRrURNED GANqU",
   "NqVINqWEqXANqYNqZENrHARjMTAVRULI CAPITAL LETTER AENzjINzjNziBANziCANzjHARzkINzjILziDONziELIFIz",
   "jNziFIziGANzjHANziHAEzkRzlD SIGNzjEzjIEzjOEziINziJHANzjILziKANzjHARziLABIAL SIGNzkSziMANziNARz",
   "iONziPARzjHARziQARziRAEziSANzjHINziTANzkRzjURNED GANziUNziVINziWEziXANziYNziZENzjHARjPARAGRAPH",
   " SEPARATORjSMALL LETTER AENxNwBANwCANxHARyINxILwDONwENwGANxHANwHAEyRxExIExOEwINwJHANxILwKANxHA",
   "RwLASwMANwNARwONwPARxHARwQARwRAEwSANxHINwTANyRwUNwVINwWEwXANwYNwZENxHARcRMAN PENNY SIGNcTA MAR",
   "KbHOSTbIMEL SYMBOLcRAFFE FACEdLeS SYMBOLbLAGOLITIC CAPITAL LETTER AZUzbBIG YUSzcUKYzbCAUDATE C",
   "HRIVIzcHRIVIzbDJERVIzcOBROzcZELOzbFITAzcRITUzbGLAGOLIzbHERUzbIzcNITIAL IZHEzcOTATED BIG YUSzjS",
   "MALL YUSzcZHEzeITSAzbKAKOzbLATINATE MYSLITEzcJUDIJEzbMYSLITEzbNASHIzbONUzcTUzbPEzcOKOJIzbRITSI",
   "zbSHAzdTAzfPICzcLOVOzcMALL YUSzk WITH TAILzcPIDERY HAzbTROKUTASTI AzcSIzcVRIDOzbUKUzbVEDEzbYAT",
   "IzcERIzeUzdSTUzcOzcUzbZEMLJAzcHIVETElSMALL LETTER AZUyBIG YUSzaUKYyCAUDATE CHRIVIzaHRIVIyDJERV",
   "IzaOBROzaZELOyFITAzaRITUyGLAGOLIyHERUyIzaNITIAL IZHEzaOTATED BIG YUSzhSMALL YUSzaZHEzcITSAyKAK",
   "OyLATINATE MYSLITEzaJUDIJEyMYSLITEyNASHIyONUzaTUyPEzaOKOJIyRITSIySHAzbTAzdPICzaLOVOzaMALL YUSz",
   "i WITH TAILzaPIDERY HAyTROKUTASTI AzaSIzaVRIDOyUKUyVEDEyYATIzaERIzcUzbSTUzaOzaUyZEMLJAzaHIVETE",
   "dSS OF MILKcEICH STARKcOBE WITH MERIDIANSdVESdWING STARbOAL NETdTcGGLEScLFERcRILLAcTHIC LETTER",
   " AHSApIHVUSoBAIRKANoDAGSoEISoFAIHUoGIBAoHAGLpWAIRoIGGWSpUJAoJERoKUSMAoLAGUSoMANNAoNAUTHSpINE H",
   "UNDREDsTYoOTHALoPAIRTHRAoQAIRTHRAoRAIDAoSAUILoTEIWSpHIUTHoURUSoWINJAbRADUATION CAPdNTHA AU LEN",
   "GTH MARKiLETTER AqAqIqUpBAqHApCAqHApDAqDArHAqHApEEpGAqHApHApIqIpJAqHApKAqHApLAqLApMApNAqGAqNAq",
   "YApOOpPAqHApRApSAqHAqSApTAqHAqTArHApUqUpVAqEDIC ANUSVARAvDOUBLE ANUSVARAqOCALIC LyLxRyRpYAiOMi",
   "SIGN ANUSVARAoVAGRAHAnCANDRABINDUoOMBINING ANUSVARA ABOVEnNUKTAnPLUTAnVIRAMApSARGAiVOWEL SIGN ",
   "AAuIuUtEEtIuItOOtUuUtVOCALIC LzdLzcRzdRdPESdVE ACCENTcEATER-THAN ABOVE DOUBLE-LINE EQUAL ABOVE",
   " LESS-THANtLESS-THAN ABOVE DOUBLE-LINE EQUALtRIGHTWARDS ARROWtSIMILAR ABOVE LESS-THANzcOR EQUA",
   "LuLANTED EQUAL ABOVE LESS-THAN ABOVE SLANTED EQUALoND NOT APPROXIMATErSINGLE-LINE NOT EQUAL TO",
   "nBESIDE LESS-THANoUT NOT EQUAL TOyIVALENT TOnCLOSED BY CURVEzd ABOVE SLANTED EQUALnEQUAL TO OR",
   " LESS-THANnOR APPROXIMATEqEQUAL TOtIVALENT TOqLESS-THANqSLANTED EQUAL TOzh WITH DOT ABOVEzw LE",
   "FTzrINSIDEoVER EQUAL TOrLAPPING LESS-THANnSIGNnWITH CIRCLE INSIDEsDOTsQUESTION MARK ABOVEdEK A",
   "CROPHONIC ATTIC FIFTYzd STATERSzeTALENTSzfHOUSANDzm STATERSzaVEzc HUNDREDzk STATERSzlTALENTSzd",
   "STATERSzdTALENTSzeHOUSANDzl TALENTSxONE DRACHMAzcHALFzdUNDRED STATERSzkTALENTSzcQUARTERzcTHOUS",
   "AND STATERSzlTALENTSxTEN MNASzcSTATERSzcTALENTSzdHOUSAND STATERSrCARYSTIAN FIVE HUNDREDsYRENAI",
   "C TWO DRACHMASrDELPHIC FIVE MNASrEPIDAUREAN FIVE HUNDREDzdTWOzg DRACHMASrHERAEUM ONE PLETHRONu",
   "MIONIAN FIFTYzdONEzdTENrMESSENIAN TENrNAXIAN FIVE HUNDREDrSTRATIAN FIFTY MNASrTHESPIAN FIFTYzd",
   "VE HUNDREDzgTHOUSANDzbONEze HUNDREDzfTHOUSANDzbTENzcHIRTYzdREE HUNDREDzcWOsROEZENIAN FIFTYzi A",
   "LTERNATE FORMzfVEzh HUNDREDzdTENzg ALTERNATE FORMhNO TELEIAhROURA SIGNiTABE SIGNgBETA SYMBOLgC",
   "APITAL DOTTED LUNATE SIGMA SYMBOLoKAI SYMBOLoLETTER ALPHAzb WITH DASIAzm AND OXIAzv AND PROSGE",
   "GRAMMENIzrPERISPOMENIzzd AND PROSGEGRAMMENIzsROSGEGRAMMENIzrVARIAzw AND PROSGEGRAMMENIzhMACRON",
   "zhOXIAzhPROSGEGRAMMENIziSILIzm AND OXIAzv AND PROSGEGRAMMENIzrPERISPOMENIzzd AND PROSGEGRAMMEN",
   "IzsROSGEGRAMMENIzrVARIAzw AND PROSGEGRAMMENIzhTONOSzhVARIAziRACHYwRCHAIC SAMPIvBETAvCHIvDELTAv",
   "EPSILONzd WITH DASIAzo AND OXIAztVARIAzjOXIAzjPSILIzo AND OXIAztVARIAzjTONOSzjVARIAwTAy WITH D",
   "ASIAzk AND OXIAzt AND PROSGEGRAMMENIzpPERISPOMENIzzb AND PROSGEGRAMMENIzqROSGEGRAMMENIzpVARIAz",
   "u AND PROSGEGRAMMENIzfOXIAzfPROSGEGRAMMENIzgSILIzk AND OXIAzt AND PROSGEGRAMMENIzpPERISPOMENIz",
   "zb AND PROSGEGRAMMENIzqROSGEGRAMMENIzpVARIAzu AND PROSGEGRAMMENIzfTONOSzfVARIAvGAMMAvHETAvIOTA",
   "za WITH DASIAzl AND OXIAzqPERISPOMENIzqVARIAzhIALYTIKAzgMACRONzgOXIAzgPSILIzl AND OXIAzqPERISP",
   "OMENIzqVARIAzgTONOSzgVARIAzhRACHYvKAPPAvLAMDAvMUvNUvOMEGAzb WITH DASIAzm AND OXIAzv AND PROSGE",
   "GRAMMENIzrPERISPOMENIzzd AND PROSGEGRAMMENIzsROSGEGRAMMENIzrVARIAzw AND PROSGEGRAMMENIzhOXIAzh",
   "PROSGEGRAMMENIziSILIzm AND OXIAzv AND PROSGEGRAMMENIzrPERISPOMENIzzd AND PROSGEGRAMMENIzsROSGE",
   "GRAMMENIzrVARIAzw AND PROSGEGRAMMENIzhTONOSzhVARIAxICRONzd WITH DASIAzo AND OXIAztVARIAzjOXIAz",
   "jPSILIzo AND OXIAztVARIAzjTONOSzjVARIAvPAMPHYLIAN DIGAMMAwHIwIwSIvRHOy WITH DASIAvSANwHOwIGMAv",
   "TAUwHETAvUPSILONzd WITH DASIAzo AND OXIAztPERISPOMENIztVARIAzkIALYTIKAzjMACRONzjOXIAzjTONOSzjV",
   "ARIAzkRACHYvXIvYOTvZETApUNATE SIGMA SYMBOLoREVERSED DOTTED LUNATE SIGMA SYMBOLxLUNATE SIGMA SY",
   "MBOLoTHETA SYMBOLgDASIAl AND OXIAqPERISPOMENIqVARIAhIALYTIKA AND OXIAuPERISPOMENIuVARIAqTONOSh",
   "RACHMA SIGNgFIVE OBOLS SIGNhOUR OBOLS SIGNgGRAMMA SIGNgINDICTION SIGNiSTRUMENTAL NOTATION SYMB",
   "OL-1zl1zl2zl3zl4zl7zl8zl9zk2zl3zl4zl5zl6zl7zl9zk30zl2zl6zl7zl8zl9zk4zl0zl2zl3zl5zl7zl8zl9zk5zl",
   "0zl1zl2zl3zl4zk7zk8gKAI SYMBOLiPPA SYMBOLhORONIShYATHOS BASE SIGNgLETTER ARCHAIC KOPPAnDIGAMMA",
   "nKOPPAnSAMPIoMALL CAPITAL GAMMAzcLAMDAzcOMEGAzcPIzdSIzcRHOoTIGMAnYOThITRA SIGNhOWER NUMERAL SI",
   "GNhUNATE EPSILON SYMBOLnSIGMA SYMBOLgMETRETES SIGNhUSICAL LEIMMAgNUMERAL SIGNgOBOL SIGNhNE HAL",
   "F SIGNt ALTERNATE FORMkQUARTER SIGNhUNKIA SIGNhXIAgPERISPOMENIhHI SYMBOLhI SYMBOLhROSGEGRAMMEN",
   "IhSILIl AND OXIAqPERISPOMENIqVARIAgQUESTION MARKgREVERSED LUNATE EPSILON SYMBOLhHO SYMBOLkWITH",
   " STROKE SYMBOLgSINUSOID SIGNhMALL DOTTED LUNATE SIGMA SYMBOLmLETTER ALPHAy WITH DASIAzk AND OX",
   "IAzt AND YPOGEGRAMMENIzpPERISPOMENIzzb AND YPOGEGRAMMENIzpVARIAzu AND YPOGEGRAMMENIzpYPOGEGRAM",
   "MENIzfMACRONzfOXIAzj AND YPOGEGRAMMENIzfPERISPOMENIzq AND YPOGEGRAMMENIzgSILIzk AND OXIAzt AND",
   " YPOGEGRAMMENIzpPERISPOMENIzzb AND YPOGEGRAMMENIzpVARIAzu AND YPOGEGRAMMENIzpYPOGEGRAMMENIzfTO",
   "NOSzfVARIAzk AND YPOGEGRAMMENIzgRACHYzfYPOGEGRAMMENIuRCHAIC KOPPAzcSAMPItBETAtCHItDELTAuIGAMMA",
   "tEPSILONzb WITH DASIAzm AND OXIAzrVARIAzhOXIAzhPSILIzm AND OXIAzrVARIAzhTONOSzhVARIAuTAw WITH ",
   "DASIAzi AND OXIAzr AND YPOGEGRAMMENIznPERISPOMENIzy AND YPOGEGRAMMENIznVARIAzs AND YPOGEGRAMME",
   "NIznYPOGEGRAMMENIzdOXIAzh AND YPOGEGRAMMENIzdPERISPOMENIzo AND YPOGEGRAMMENIzeSILIzi AND OXIAz",
   "r AND YPOGEGRAMMENIznPERISPOMENIzy AND YPOGEGRAMMENIznVARIAzs AND YPOGEGRAMMENIznYPOGEGRAMMENI",
   "zdTONOSzdVARIAzi AND YPOGEGRAMMENIzdYPOGEGRAMMENItFINAL SIGMAtGAMMAtHETAtIOTAx WITH DASIAzj AN",
   "D OXIAzoPERISPOMENIzoVARIAzfIALYTIKAzn AND OXIAzsPERISPOMENIzsTONOSzsVARIAzeMACRONzeOXIAzePERI",
   "SPOMENIzfSILIzj AND OXIAzoPERISPOMENIzoVARIAzeTONOSzeVARIAzfRACHYtKAPPAuOPPAtLAMDAtMUtNUtOMEGA",
   "y WITH DASIAzk AND OXIAzt AND YPOGEGRAMMENIzpPERISPOMENIzzb AND YPOGEGRAMMENIzpVARIAzu AND YPO",
   "GEGRAMMENIzpYPOGEGRAMMENIzfOXIAzj AND YPOGEGRAMMENIzfPERISPOMENIzq AND YPOGEGRAMMENIzgSILIzk A",
   "ND OXIAzt AND YPOGEGRAMMENIzpPERISPOMENIzzb AND YPOGEGRAMMENIzpVARIAzu AND YPOGEGRAMMENIzpYPOG",
   "EGRAMMENIzfTONOSzfVARIAzk AND YPOGEGRAMMENIzfYPOGEGRAMMENIvICRONzb WITH DASIAzm AND OXIAzrVARI",
   "AzhOXIAzhPSILIzm AND OXIAzrVARIAzhTONOSzhVARIAtPAMPHYLIAN DIGAMMAuHIuIuSItRHOw WITH DASIAzdPSI",
   "LItSAMPIvNuHOuIGMAuTIGMAtTAUuHETAtUPSILONzb WITH DASIAzm AND OXIAzrPERISPOMENIzrVARIAziIALYTIK",
   "Azq AND OXIAzvPERISPOMENIzvTONOSzvVARIAzhMACRONzhOXIAzhPERISPOMENIziSILIzm AND OXIAzrPERISPOME",
   "NIzrVARIAzhTONOSzhVARIAziRACHYtXItZETAmREVERSED DOTTED LUNATE SIGMA SYMBOLvLUNATE SIGMA SYMBOL",
   "hUBSCRIPT SMALL LETTER BETAzeCHIzeGAMMAzePHIzeRHOhYMBOL TAU RHOgTALENT SIGNhHETA SYMBOLiREE OB",
   "OLS SIGNmQUARTERS SIGNhONOShRYBLION BASE SIGNhWO OBOLS SIGNkTHIRDS SIGNgUPSILON WITH ACUTE AND",
   " HOOK SYMBOLtDIAERESIS AND HOOK SYMBOLtHOOK SYMBOLgVARIAhOCAL NOTATION SYMBOL-1ze0ze1ze2ze3ze4",
   "ze5ze6ze7ze8ze9zd2ze0ze1ze2ze3ze4zd3zd4zd5ze0ze1ze2ze3ze4zd6zd7zd8zd9gXESTES SIGNgYEAR SIGNhPO",
   "GEGRAMMENIgZERO SIGNeN APPLEgBOOKgHEARTgSALADcIMACING FACEdNNING CAT FACE WITH SMILING EYESjFA",
   "CEn WITH ONE LARGE AND ONE SMALL EYEtSMILING EYESuTAR EYEScOUP MARKgSEPARATORdWING HEARTbSbUAR",
   "ANI SIGNeDSMANcIDE DOGdTARcJARATI ABBREVIATION SIGNjDIGIT EIGHTpFIVEqOURpNINEpONEpSEVENqIXpTHR",
   "EEqWOpZEROjLETTER ArArIrUqBArHAqCArHAqDArDAsHArHAqEqGArHAqHAqIrIqJArHAqKArHAqLArLAqMAqNArGArNA",
   "rYAqOqPArHAqRAqSArHArSAqTArHArTAsHAqUrUqVArOCALIC LzaLyRzaRqYAqZHAjOMjRUPEE SIGNjSIGN ANUSVARA",
   "pVAGRAHAoCANDRABINDUpIRCLE NUKTA ABOVEoMADDAHoNUKTAoSHADDApUKUNoTHREE-DOT NUKTA ABOVEpWO-CIRCL",
   "E NUKTA ABOVEoVIRAMAqSARGAjVOWEL CANDRA EwOpSIGN AAvIvUuCANDRA EzcOuEuIvIuOuUvUuVOCALIC LzeLzd",
   "RzeRcNJALA GONDI DIGIT EIGHTuFIVEvOURuNINEuONEuSEVENvIXuTHREEvWOuZEROoLETTER AwAwIwUvBAwHAvCAw",
   "HAvDAwDAxHAwHAvEEvGAwHAvHAvIwIvJAwHAvKAwHAvLAwLAvMAvNAwGAvOOvPAwHAvRAvSAvTAwHAwTAxHAvUwUvVAvYA",
   "oOMoSIGN ANUSVARAtVISARGAoVIRAMApOWEL SIGN AAzbIzbUzaEEzaIzbIzaOOzaUzbUcRMUKHI ABBREVIATION SI",
   "GNkDDAKjDIGIT EIGHTpFIVEqOURpNINEpONEpSEVENqIXpTHREEqWOpZEROjEK ONKARjIRIjLETTER ArArIrUqBArHA",
   "qCArHAqDArDAsHArHAqEEqFAqGArHAsHAqHAqIrIqJArHAqKArHAsHAqLArLAqMAqNArGArNArYAqOOqPArHAqRArRAqSA",
   "rHAqTArHArTAsHAqUrUqVAqYAqZAjSIGN ADAK BINDIoBINDIoNUKTAoUDAAToVIRAMAqSARGAoYAKASHjTIPPIjURAjV",
   "OWEL SIGN AAvIvUuEEuIvIuOOuUvUaHADEScIR SPACEeCUTcLFWIDTH BLACK SQUAREkDOWNWARDS ARROWkFORMS L",
   "IGHT VERTICALkHANGUL FILLERrLETTER AzaEyCHIEUCHzaIEUCyEzaOzaUyHIEUHyIzaEUNGyKHIEUKHzaIYEOKzf-S",
   "IOSyMIEUMyNIEUNze-CIEUCzfHIEUHyOzaEyPHIEUPHzaIEUPze-SIOSyRIEULze-HIEUHzfKIYEOKzfMIEUMzfPHIEUPH",
   "zgIEUPzfSIOSzfTHIEUTHySIOSzaSANGCIEUCzeKIYEOKzePIEUPzeSIOSzeTIKEUTyTHIEUTHzaIKEUTyUyWAzbEzaEzb",
   "OzaIyYAzbEzaEzbOzaIzaOzaUkIDEOGRAPHIC COMMAwFULL STOPkKATAKANA LETTER AzbEzbHAzcEzcIzcOzcUzbIz",
   "bKAzcEzcIzcOzcUzbMAzcEzcIzcOzcUzbNzcAzcEzcIzcOzcUzbOzbRAzcEzcIzcOzcUzbSAzcEzcIzcMALL AzhEzhIzh",
   "OzhTUzhUzhYAziOziUzcOzcUzbTAzcEzcIzcOzcUzbUzbWAzcOzbYAzcOzcUtMIDDLE DOTtSEMI-VOICED SOUND MARK",
   "tVOICED SOUND MARKs-HIRAGANA PROLONGED SOUND MARKkLEFT CORNER BRACKEToWARDS ARROWkRIGHT CORNER",
   " BRACKETpWARDS ARROWkUPWARDS ARROWkWHITE CIRCLEcMBURGERdMERg AND PICKlSICKLElWRENCHdSAeTER FAC",
   "EcND WITH INDEX AND MIDDLE FINGERS CROSSEDqFINGER AND THUMB CROSSEDeBAGgLLeSHAKEdGUL CHOSEONG ",
   "CEONGCHIEUMCHIEUCHzdIEUCzcSIOSzdSANGCIEUCzhSIOSrHIEUCHx-HIEUHyKHIEUKHtTUEUMCHIEUCHzaIEUCySIOSz",
   "aSANGCIEUCzeSIOSrIEUCv-IEUNGqFILLERqHIEUHv-SIOSqIEUNGv-CHIEUCHxIEUCwHIEUHwKIYEOKwMIEUMwPANSIOS",
   "xHIEUPHxIEUPwRIEULwSIOSwTHIEUTHxIKEUTqKAPYEOUNMIEUMyPHIEUPHzaIEUPyRIEULySSANGPIEUPrHIEUKHrIYEO",
   "Kw-TIKEUTqMIEUMv-KIYEOKwPIEUPwSIOSwTIKEUTqNIEUNv-CIEUCwHIEUHwKIYEOKwPIEUPwSIOSwTIKEUTqPANSIOSr",
   "HIEUPHx-HIEUHyPIEUPrIEUPv-CHIEUCHxIEUCwHIEUHwKHIEUKHxIYEOKwNIEUNwPHIEUPHwSIOSzb-CIEUCzcKIYEOKz",
   "cPIEUPzcTHIEUTHzdIKEUTxSANGSIOSwTHIEUTHxIKEUTqRIEULv-CIEUCwHIEUHwKAPYEOUNPIEUPxHIEUKHxIYEOKwMI",
   "EUMwNIEUNwPIEUPwSIOSxSANGKIYEOKzcPIEUPzcTIKEUTwTIKEUTqSIOSu-CHIEUCHwIEUCvHIEUHvIEUNGvKHIEUKHwI",
   "YEOKvMIEUMvNIEUNvPHIEUPHwIEUPzb-KIYEOKvRIEULvSSANGSIOSvTHIEUTHwIKEUTrSANGCIEUCzb-HIEUHvHIEUHvI",
   "EUNGvKIYEOKvNIEUNvPIEUPvRIEULvSIOSza-PIEUPvTHIEUTHwIKEUTvYEORINHIEUHqTHIEUTHrIKEUTw-CIEUCxKIYE",
   "OKxMIEUMxPIEUPxRIEULxSIOSqYEORINHIEUHsSIEUNGhDOUBLE DOT TONE MARKhFILLERhJONGSEONG CHIEUCHsIEU",
   "Cw-PIEUPxSSANGPIEUPrHIEUHw-MIEUMxNIEUNxPIEUPxRIEULrIEUNGw-KHIEUKHyIYEOKxSSANGKIYEOKrKAPYEOUNMI",
   "EUMzaPHIEUPHzbIEUPzaRIEULsHIEUKHsIYEOKx-CHIEUCHyHIEUHyKHIEUKHyNIEUNyPIEUPyRIEULySIOSzd-KIYEOKr",
   "MIEUMw-CHIEUCHyIEUCxHIEUHxKIYEOKxNIEUNxPANSIOSyIEUPzd-SIOSxRIEULxSIOSySANGNIEUNzdSIOSrNIEUNw-C",
   "HIEUCHyIEUCxHIEUHxKIYEOKxPANSIOSxRIEULxSIOSxTHIEUTHyIKEUTrPANSIOSy-KAPYEOUNPIEUPzaPIEUPsHIEUPH",
   "y-PIEUPzaSIOSzaTHIEUTHsIEUPw-CHIEUCHyIEUCxHIEUHxMIEUMxPHIEUPHxRIEULzd-PHIEUPHxSIOSzc-TIKEUTxTI",
   "KEUTrRIEULw-HIEUHxKAPYEOUNPIEUPyHIEUKHyIYEOKze-HIEUHzfSIOSxMIEUMzd-HIEUHzeKIYEOKzeSIOSxNIEUNxP",
   "ANSIOSyHIEUPHyIEUPzd-HIEUHzePHIEUPHzeSIOSzeTIKEUTxSIOSySANGKIYEOKzdSIOSxTHIEUTHyIKEUTze-HIEUHx",
   "YEORINHIEUHzj-HIEUHzaSIEUNGrSIOSv-CHIEUCHxIEUCwHIEUHwKAPYEOUNPIEUPxIYEOKwMIEUMwPANSIOSxIEUPwRI",
   "EULwTHIEUTHxIKEUTsSANGCIEUCwIEUNGwKIYEOKwMIEUMwNIEUNwPIEUPwRIEULzc-KHIEUKHwSIOSzb-KIYEOKzcTIKE",
   "UTwTIKEUTzd-PIEUPwYESIEUNGrTHIEUTHsIKEUTx-CHIEUCHzaIEUCyKIYEOKyPIEUPyRIEULySIOSzd-KIYEOKyTHIEU",
   "THrYEORINHIEUHtSIEUNGza-HIEUHzbKHIEUKHzcIYEOKzbMIEUMzbPANSIOSzbSIOSzcSANGKIYEOKiUNGSEONG As-EU",
   "tOtUsEsRAEAw-AxEyOxIxUrEsOt-EUuOuUsUt-AuEvOvUuOuUrFILLERrIs-AuRAEAtEUtItOu-ItUtYAv-OvEuEvOuOuU",
   "rOs-EuOtOu-ItUtYAvEuEvOsErSSANGARAEArUs-AuEtEO-EUtI-ItUtYEvOrWAtEsEtOsIrYAt-OuUuYOtEsEtOu-OvUv",
   "YAsIt-UsOt-AvEuEOuIuOuYAwEvEOsUt-AvEuEvOuIuOuUuYEwOhLETTER ApEpRAEAtEoCHIEUCHpIEUCoEpOpUoHIEUH",
   "oIpEUNGoKAPYEOUNMIEUMwPHIEUPHxIEUPwSSANGPIEUPpHIEUKHpIYEOKu-SIOSoMIEUMt-PANSIOSvIEUPuSIOSoNIEU",
   "Nt-CIEUCuHIEUHuPANSIOSuSIOSuTIKEUToOpEoPANSIOSpHIEUPHpIEUPt-CIEUCuKIYEOKuSIOSy-KIYEOKzaTIKEUTu",
   "THIEUTHvIKEUToRIEULt-HIEUHuKIYEOKzb-SIOSuMIEUMuPANSIOSvHIEUPHvIEUPza-SIOSuSIOSuTHIEUTHvIKEUTuY",
   "EORINHIEUHoSIOSs-CIEUCtKIYEOKtNIEUNtPIEUPtTIKEUTpSANGCIEUCtHIEUHtIEUNGtKIYEOKtNIEUNtPIEUPtSIOS",
   "tTIKEUToTHIEUTHpIKEUToUoWAqEpEqOpIoYAqEpEqOrRINHIEUHqSIEUNGw-PANSIOSxSIOSpIpOq-IrYAtEpUq-IrYEt",
   "OhSINGLE DOT TONE MARKeZHOU NUMERAL EIGHTrFIVEsOURrNINErONErSEVENsIXrTENsHIRTYtREEsWENTYtOdIFI",
   " ROHINGYA DIGIT EIGHTwFIVExOURwNINEwONEwSEVENxIXwTHREExWOwZEROqLETTER AxBAxCAxDAyDAxFAxGAxHAxJ",
   "AxKAyHAyINNA WAzeYAxLAxMAxNAyGAyYAxPAxRAyRAxSAyHAxTAyTAxVAxWAxYAxZAqMARK NA KHONNAvSAKINqSIGN ",
   "HARBAHAYvTAHALAxNAxSSIqVOWEL AwEwIwOwUdUNOO LETTER ApBApDApGApHApIpKApLApMApNAqGApPApRApSApTAp",
   "UpWApYAiSIGN PAMUDPODiVOWEL SIGN ItUcPPY PERSON RAISING ONE HANDcRD DISKcTCHING CHICKdRAN LETT",
   "ER ALEPHpYNoBETHoDALETH-RESHoGIMELoHEqTHoKAPHoLAMEDHoMEMoNUNoPEoQOPHoSADHEqMEKHpHINoTAWpETHoWA",
   "WoYODHoZAYNhNUMBER FIVEoONEr HUNDREDoTENpWENTYbEADPHONEeSTONEj GRAVEYARD SYMBOLdR-NO-EVIL MONK",
   "EYeT DECORATIONgHANDSgWITH ARROWlRIBBONlTIP ON THE LEFTdVY AMPERSAND ORNAMENThRROW SHAFT WIDTH",
   " ONEzc HALFzdTHIRDyTWO THIRDShSTERISKgBALLOT XhLACK CURVED DOWNWARDS AND RIGHTWARDS ARROWtUPWA",
   "RDS AND RIGHTWARDS ARROWmHEARTl-FEATHERED NORTH EAST ARROWwRIGHTWARDS ARROWwSOUTH EAST ARROWgC",
   "HECK MARKjVRON SNOWFLAKEhIRCLEm WITH CIRCLE INSIDEsSTROKE AND TWO DOTS ABOVEmD SALTIREhONCAVE-",
   "POINTED BLACK RIGHTWARDS ARROWgDASHED TRIANGLE-HEADED RIGHTWARDS ARROWhIVISION SIGNhOLLAR SIGN",
   "iUBLE COMMA QUOTATION MARK ORNAMENTnTURNED COMMA QUOTATION MARK ORNAMENTiWNWARDS ARROW WITH EQ",
   "UILATERAL ARROWHEADzcLARGE EQUILATERAL ARROWHEADgEIGHT POINTED BLACK STARuPINWHEEL STARuRECTIL",
   "INEAR BLACK STARmSPOKED ASTERISKmTEARDROP-SPOKED PROPELLER ASTERISKhQUALS SIGNhXCLAMATION MARK",
   " ORNAMENTxSYMBOLgFIVE POINTED BLACK STARlSPOKED ASTERISKhOUR BALLOON-SPOKED ASTERISKgGREEK CRO",
   "SSgHEART EXCLAMATION MARK ORNAMENThORIZONTAL FILLgINTERROBANG ORNAMENTgLARGE CIRCLEiTIN CROSSh",
   "EFT-POINTING ANGLE BRACKET ORNAMENTzbQUOTATION MARK ORNAMENTkWARDS ARROW WITH EQUILATERAL ARRO",
   "WHEADzcLARGE EQUILATERAL ARROWHEADhIGATURE OPEN ET ORNAMENThOW DOUBLE COMMA QUOTATION MARK ORN",
   "AMENTkSINGLE COMMA QUOTATION MARK ORNAMENTjER RIGHT-SHADOWED WHITE RIGHTWARDS ARROWgMINUS SIGN",
   "hULTIPLICATION XgNORTH EAST ARROWrPOINTING BUDzbVINE LEAFmWEST POINTING BUDzbVINE LEAFgOPEN CE",
   "NTRE CROSShUTLINED BLACK STARhVAL WITH OVAL INSIDEgPLUS SIGNgRIGHT-POINTING ANGLE BRACKET ORNA",
   "MENTzcQUOTATION MARK ORNAMENTlWARDS ARROWw WITH EQUILATERAL ARROWHEADzdLARGE EQUILATERAL ARROW",
   "HEADhOUND-TIPPED RIGHTWARDS ARROWgSALTIREiNS-SERIF INTERROBANG ORNAMENThCRIPT LIGATURE ET ORNA",
   "MENThINGLE COMMA QUOTATION MARK ORNAMENTnTURNED COMMA QUOTATION MARK ORNAMENTiX POINTED BLACK ",
   "STARkSPOKED ASTERISKhOUTH EAST ARROWrPOINTING BUDzbVINE LEAFmWEST POINTING BUDzbVINE LEAFhPARK",
   "LEgTEARDROP-SHANKED RIGHTWARDS ARROWqPOKED ASTERISKwPINWHEEL ASTERISKhRIANGLE-HEADED RIGHTWARD",
   "S ARROWhWELVE POINTED BLACK STARvPINWHEEL STARgUPPER RIGHT-SHADOWED WHITE RIGHTWARDS ARROWiWAR",
   "DS ARROW WITH EQUILATERAL ARROWHEADzaLARGE EQUILATERAL ARROWHEADgVERTICAL BARgWEDGE-TAILED RIG",
   "HTWARDS ARROWhHITE CIRCLEmDOWN-POINTING TRIANGLEmSQUAREhIDE-HEADED RIGHTWARDS ARROWcBREW ACCEN",
   "T ATNAH HAFUKHoDARGApEHIoETNAHTAoGERESHu MUQDAMrSHAYIMoILUYoMAHAPAKHpERKHAu KEFULApUNAHoOLEoPA",
   "SHTAqZERoQADMAqRNEY PARAoREVIAoSEGOLpHALSHELEToTELISHA GEDOLAwQETANAqVIRpIPEHAoYERAH BEN YOMOq",
   "TIVoZAQEF GADOLuQATANqRQApINORhLETTER ALEFs WITH MAPIQyPATAHyQAMATSqTERNATIVE AYINzbPLUS SIGNp",
   "YINoBETr WITH DAGESHxRAFEoDALETt WITH DAGESHoFINAL KAFx WITH DAGESHuMEMuNUNuPEw WITH DAGESHuTS",
   "ADIoGIMELt WITH DAGESHoHEq WITH MAPIQqToKAFr WITH DAGESHxRAFEoLAMEDt WITH DAGESHoMEMr WITH DAG",
   "ESHoNUNr WITH DAGESHoPEq WITH DAGESHwRAFEoQOFr WITH DAGESHoRESHs WITH DAGESHoSAMEKHu WITH DAGE",
   "SHpHINs WITH DAGESHzf AND SHIN DOTzlIN DOTySHIN DOTzaIN DOToTAVr WITH DAGESHpETr WITH DAGESHpS",
   "ADIt WITH DAGESHoVAVr WITH DAGESHxHOLAMoWIDE ALEFtDALETtFINAL MEMtHEtKAFtLAMEDtRESHtTAVoYODr W",
   "ITH DAGESHxHIRIQoZAYINt WITH DAGESHiIGATURE ALEF LAMEDqYIDDISH DOUBLE VAVzgYODyVAV YODyYOD YOD",
   " PATAHhMARK LOWER DOTmMASORA CIRCLEmUPPER DOThPOINT DAGESH OR MAPIQnHATAF PATAHtQAMATStSEGOLoI",
   "RIQoOLAMs HASER FOR VAVnJUDEO-SPANISH VARIKAnMETEGnPATAHnQAMATSt QATANoUBUTSnRAFEnSEGOLoHEVApI",
   "N DOToIN DOTnTSEREiUNCTUATION GERESHwSHAYIMtMAQAFtNUN HAFUKHAtPASEQtSOF PASUQhYOD TRIANGLEcDGE",
   "HOGcLICOPTERdLSCHREIBER PAUSE SYMBOLdM SYMBOLeET WITH WHITE CROSScNTAIGANA LETTER A-1u2u3uWOsE",
   "-1u2u3u4u5u6sHA-1w0w1v2v3v4v5v6v7v8v9tE-1v2v3v4v5v6v7tI-1v2v3v4v5v6v7tO-1v2v3v4v5v6v7v8tU-1v2v",
   "3sI-1u2u3u4sKA-1w0w1v2v3v4v5v6v7v8v9vKEtE-1v2v3v4v5v6tI-1v2v3v4v5v6v7v8tO-1v2v3vKItU-1v2v3v4v5",
   "v6v7sMA-1v2v3v4v5v6v7tE-1v2vMAtI-1v2v3v4v5v6v7tO-1v2v3v4v5v6tU-1v2v3v4sN-MU-MO-1zb2tA-1v2v3v4v",
   "5v6v7v8v9tE-1v2v3v4v5v6vKOtI-1v2v3v4v5v6v7vTEtO-1v2v3v4v5tU-1v2v3sO-1u2u3sRA-1v2v3v4tE-1v2v3v4",
   "tI-1v2v3v4v5v6v7tO-1v2v3v4v5v6tU-1v2v3v4v5v6sSA-1v2v3v4v5v6v7v8tE-1v2v3v4v5tI-1v2v3v4v5v6tO-1v",
   "2v3v4v5v6v7tU-1v2v3v4v5v6v7v8sTA-1v2v3v4tE-1v2v3v4v5v6v7v8v9tI-1v2v3v4v5v6v7tO-1v2v3v4v5v6vRAt",
   "U-1v2v3v4vTOsU-1u2u3u4u5sWA-1v2v3v4v5tE-1v2v3v4tI-1v2v3v4v5tO-1v2v3v4v5v6v7sYA-1v2v3v4v5vYOtO-",
   "1v2v3v4v5v6tU-1v2v3v4cRBdMITIAN CONJUGATE MATRIXcXAGRAM FOR ABUNDANCEoFTER COMPLETIONoPPROACHn",
   "BEFORE COMPLETIONoITING THROUGHoREAKTHROUGHnCOMING TO MEETpNFLICTqTEMPLATIONnDARKENING OF THE ",
   "LIGHToECREASEpLIVERANCEpVELOPMENToIFFICULTY AT THE BEGINNINGpSPERSIONoURATIONnENTHUSIASMnFELLO",
   "WSHIPoOLLOWINGnGATHERING TOGETHERoRACEpEAT POSSESSIONvWERuREPONDERANCEtTAMINGnHOLDING TOGETHER",
   "nINCREASEpFLUENCEpNER TRUTHqOCENCEnLIMITATIONnMODESTYpUTH CORNERSnOBSTRUCTIONoPPOSITIONqRESSIO",
   "NnPEACEoROGRESSoUSHING UPWARDnRETREATqURNpVOLUTIONnSMALL PREPONDERANCEtTAMINGoPLITTING APARToT",
   "ANDSTILLnTHE ABYSMAL WATERsRMYtOUSING THUNDERrCAULDRONsLINGING FIREsREATIVE HEAVENrFAMILYrGENT",
   "LE WINDrJOYOUS LAKErKEEPING STILL MOUNTAINrMARRYING MAIDENrRECEPTIVE EARTHrWANDERERsELLoREADIN",
   "GnWAITINGoORK ON THE DECAYEDnYOUTHFUL FOLLYbIBISCUScGH BRIGHTNESS SYMBOLfOCTET PRESETfVOLTAGE ",
   "SIGNe-HEELED SHOEfSPEED TRAINq WITH BULLET NOSEcKING BOOTcNDU TEMPLEcPPOPOTAMUScRAGANA DIGRAPH",
   " YORIjITERATION MARKjLETTER ArRCHAIC WUyYEqBArErIrOrUqDArErIrOrUqEqGArErIrOrUqHArErIrOrUqIqKAr",
   "ErIrOrUqMArErIrOrUqNrArErIrOrUqOqPArErIrOrUqRArErIrOrUqSArErIrMALL AwEwIwKAxEwOwTUwUwWAxExIxOw",
   "YAxOxUrOrUqTArErIrOrUqUqVUqWArErIrOqYArOrUqZArErIrOrUjVOICED ITERATION MARKcSTORIC SITEbOCHOcL",
   "EdLOW QUILT SQUARE ORNAMENTzd IN BLACK SQUAREcMOTHETICcNEY POTfBEEcOKcPcRIZONTAL BARmLACK HEXA",
   "GONrOCTAGONlELLIPSISlLINE EXTENSIONlMALE WITH STROKE SIGNlONE EIGHTH BLOCK-1358zd2zd3zd4zd5zd6",
   "zd7lSCAN LINE-1v3v7v9lTAB KEYoULATIONv SETwWITH JUSTIFICATIONmRAFFIC LIGHTdSEf FACEgRACINGcSPI",
   "TALcT BEVERAGEeDOGePEPPEReSPRINGSdELcURGLASSj WITH FLOWING SANDdSEf BUILDINGoSgWITH GARDENbRYV",
   "NIA SIGNbTcJcSbUGGING FACEcNDRED POINTS SYMBOLcSHED FACEcTbYGIEAcPHENg BULLEThWITH DIAERESISg-",
   "MINUSgATION POINTdODIASTOLEcSTERESIS SYMBOLaI LOVE YOU HAND SIGNbCE CREAMfUBEeHOCKEY STICK AND",
   " PUCKeSKATEbDENTICAL TOm AND SLANTED PARALLELkWITH DOT ABOVEgFICATION CARDdOGRAPHIC ANNOTATION",
   " BOTTOM MARKxEARTH MARKxFIRST MARKyOUR MARKzcTH MARKxHEAVEN MARKxLINKING MARKxMAN MARKyIDDLE M",
   "ARKxONE MARKxREVERSE MARKxSECOND MARKxTHIRD MARKzaREE MARKyOP MARKyWO MARKmCLOSING MARKnOMMAmD",
   "EPARTING TONE MARKoSCRIPTION CHARACTER ABOVE TO BELOWzsMIDDLE AND BELOWzjFULL SURROUNDzjLEFT T",
   "O MIDDLE AND RIGHTzrRIGHTzjOVERLAIDzjSURROUND FROM ABOVEzxBELOWzxLEFTzyOWER LEFTzxUPPER LEFTzz",
   "eRIGHTmENTERING TONE MARKmFULL STOPmHALF FILL SPACEmITERATION MARKmLEVEL TONE MARKmNUMBER ZERO",
   "mRISING TONE MARKmSPACEmTALLY MARK FIVEyOURxONExTHREEyWOnELEGRAPH LINE FEED SEPARATOR SYMBOLwS",
   "YMBOL FOR APRILzjUGUSTziDAY EIGHTzrEENznLEVENzmFIFTEENzoVEznOURzqTEENzmNINEzqTEENzmONEzmSEVENz",
   "rTEENznIXzpTEENzmTENznHIRTEENzrYzs-ONEzoREEznWELVEzpNTYzs-EIGHTztFIVEzuOURztNINEztONEztSEVENzu",
   "IXztTHREEzuWOzoOzjECEMBERziFEBRUARYziHOUR EIGHTzsEENzoLEVENznFIFTEENzpVEzoOURzrTEENznNINEzrTEE",
   "NznONEznSEVENzsTEENzoIXzqTEENznTENzoHIRTEENzpREEzoWELVEzqNTYzt-FOURzuONEzuTHREEzvWOzpOznZEROzi",
   "JANUARYzjULYzkNEziMARCHzkYziNOVEMBERziOCTOBERziSEPTEMBERmVARIATION INDICATORbMAGE OFi OR APPRO",
   "XIMATELY EQUAL TOcPdERIAL ARAMAIC LETTER ALEPHzaYINyBETHyDALETHyGIMELyHEzbTHyKAPHyLAMEDHyMEMyN",
   "UNyPEyQOPHyRESHySADHEzbMEKHzaHINyTAWzaETHyWAWyYODHyZAYINrNUMBER ONEzc HUNDREDzdTHOUSANDyTENzc ",
   "THOUSANDzaHREEzaWENTYzbOrSECTION SIGNbNBOX TRAYcCOMING ENVELOPEfPLETE INFINITYdREASE FONT SIZE",
   " SYMBOLiS ASfMENTcDdEXf POINTING AT THE VIEWERdIAN RUPEE SIGNeC SIYAQ ALTERNATE LAKH MARKmFRAC",
   "TION ONE HALFzaQUARTERvTHREE QUARTERSmLAKH MARKmNUMBER ALTERNATE ONEzeTEN THOUSANDzfWOtEIGHTy ",
   "HUNDREDzaTHOUSANDyYza THOUSANDtFIFTYy THOUSANDvVEx HUNDREDyTHOUSANDuORTYy THOUSANDvURx HUNDRED",
   "yTHOUSANDtKARORyANtLAKHxANtNINEx HUNDREDyTHOUSANDxTYza THOUSANDtONEw HUNDREDxTHOUSANDtPREFIXED",
   " EIGHTzdFIVEzeOURzdNINEzdONEzdSEVENzeIXzdTHREEzeWOtSEVENy HUNDREDzaTHOUSANDyTYzb THOUSANDuIXw ",
   "HUNDREDxTHOUSANDwTYy THOUSANDtTENw THOUSANDuHIRTYza THOUSANDvREEy HUNDREDzaTHOUSANDuWENTYza TH",
   "OUSANDvOw HUNDREDxTHOUSANDmPLACEHOLDERmRUPEE MARKcFINITYi NEGATED WITH VERTICAL BARdORMATION D",
   "ESK PERSONmSEPARATOR FOURwONEwTHREExWOnOURCEcHIBIT ARABIC FORM SHAPINGiSYMMETRIC SWAPPINGcPUT ",
   "SYMBOL FOR LATIN CAPITAL LETTERSxLETTERSxSMALL LETTERSrNUMBERSrSYMBOLScSCRIPTIONAL PAHLAVI LET",
   "TER ALEPHzeBETHzeDALETHzeGIMELzeHEzgTHzeKAPHzeLAMEDHzeMEM-QOPHzeNUNzePEzeSADHEzgMEKHzfHINzeTAW",
   "zfETHzeWAW-AYIN-RESHzeYODHzeZAYINwNUMBER FOURzeONEzh HUNDREDziTHOUSANDzeTENzfHREEzfWENTYzgOqRT",
   "HIAN LETTER ALEPHzgYINzfBETHzfDALETHzfGIMELzfHEzhTHzfKAPHzfLAMEDHzfMEMzfNUNzfPEzfQOPHzfRESHzfS",
   "ADHEzhMEKHzgHINzfTAWzgETHzfWAWzfYODHzfZAYINxNUMBER FOURzfONEzi HUNDREDzjTHOUSANDzfTENzgHREEzgW",
   "ENTYzhOdERTION SYMBOLcTEGRALi AROUND A POINT OPERATORkVERAGE WITH SLASHjEXTENSIONjWITH DOUBLE ",
   "STROKEoINTERSECTIONoLEFTWARDS ARROW WITH HOOKoOVERBARoTIMES SIGNoUNDERBARqIONeRCALATEfIOR PROD",
   "UCTfLINEAR ANNOTATION ANCHORxSEPARATORxTERMINATORgOCKED FEMALE AND MALE SIGNfROBANGfSECTIONm A",
   "BOVE BAR ABOVE UNIONtUNIONnBESIDE AND JOINED WITH INTERSECTIONnWITH DOTsLOGICAL ANDsOVERBARcVE",
   "RSE BULLETiCHECK MARKnER BOARD FILLiDOWNWARDS ARROW WITH TIP LEFTWARDSiMEDIUM SHADEiWHITE CIRC",
   "LEfTED EXCLAMATION MARKjINTERROBANGjLAZY SkOW KAVYKAt WITH KAVYKA ABOVEjOHM SIGNjPENTAGRAMjQUE",
   "STION MARKjUNDERTIEdISIBLE PLUSkSEPARATORkTIMESbZAKAYA LANTERNaJACK-O-LANTERNcPANESE BANK SYMB",
   "OLjCASTLEjDOLLSjGOBLINjINDUSTRIAL STANDARD SYMBOLjOGREjPOST OFFICEjSYMBOL FOR BEGINNERcRcVANES",
   "E CONSONANT SIGN CAKRAyKERETyPENGKALjDIGIT EIGHTpFIVEqOURpNINEpONEpSEVENqIXpTHREEqWOpZEROjLEFT",
   " RERENGGANlTTER ArIqBAs MURDAqCAs MURDAqDAs MAHAPRANArDAt MAHAPRANAqEqGAs MURDAqHAqIr KAWIrIqJ",
   "As MAHAPRANAqKAs MURDAtSASAKqLAqMAqNAs MURDArGAt LELETza RASWADIrYAt MURDAqOqPAs CEREKtMURDAqR",
   "As AGUNGqSAs MAHAPRANAuURDAqTAs MURDArTAt MAHAPRANAqUqWAqYAjPADA ADEGs ADEGpNDAPoISEN-ISENoLIN",
   "GSApUHURqNGSIoMADYAoPANGKATpISELEHoTIRTA TUMETESoWINDUlNGKONnRANGKEPjRIGHT RERENGGANjSIGN CECA",
   "Kt TELUoLAYARoPANYANGGAoWIGNYANjTURNED PADA PISELEHjVOWEL SIGN DIRGA MUREuPEPETuSUKUy MENDUTuT",
   "ALINGwRUNGvOLONGuWULUy MELIKbEANSbIGSAW PUZZLE PIECEbOINcYSTICKbUGGLINGcNOcPITERaKAABAcITHI AB",
   "BREVIATION SIGNhDANDAiOUBLE DANDAoSECTION MARKhENUMERATION SIGNhLETTER ApApIpUoBApHAoCApHAoDAp",
   "DAqDHAqHApHAoEoGApHAoHAoIpIoJApHAoKApHAoLAoMAoNApGApNApYAoOoPApHAoRApHAoSApHApSAoTApHApTAqHAoU",
   "pUoVAoYAhNUMBER SIGNs ABOVEhSECTION MARKiIGN ANUSVARAmCANDRABINDUmNUKTAmVIRAMAoSARGAhVOWEL SIG",
   "N AAtItUsEsItIsOsUtUsVOCALIC RcNGAROOeXI RADICAL AGAINqNDqRRIVEsOWqXEpBADGERrMBOOqEANqIGrRDrTT",
   "ERqLACKrOODrUEqOATrDYrLT OF CLOTHrNErWqRANCHrISTLErUSHpCARTrULDRONrVEqHILDqITYqLANsWrIFFrOTHES",
   "qOLORrMPARErRPSErVERrWpDEATHrERqIPPERrSHsTINGUISHrVINATIONqO NOTrGrORrTsTED CLIFFwTENTrUBLE Xr",
   "WN BOXqRAGONrUMrYpEARsTHrTqIGHTqMBROIDERYqNCLOSURErTERqVENtINGqYEpFACErNGrTHERqEATHERqIELDrGHT",
   "rRErSHqLUTErYqOOTqRAGRANTrOGqURpGATEqHOSTqOr SLOWLYrLDqRAINsSSpHAIRrLBERDsF TREE TRUNKrNDqEADs",
   "RTrMPqIDING ENCLOSUREqOOKrRNsSEpICEqNCHrSECTpJADErRpKNIFEpLACKrMEqEAFsTHERrEKrGSqIDrFErNEqONGt",
   " STRIDEpMANqEATrLONqILLETrNISTERqOONrRNINGsTARrUNDtTAINsTHpNETqOSErTpOLDqNEsSELFqPEN BOXrPOSEp",
   "PIGqLOWqOWERqRIVATErOFOUNDpRAINrPrTqEDqICErGHT OPEN BOXrVERqOOFqUNpSACRIFICIAL WINErLTrYqCHOLA",
   "RrRIPTqEALrCONDrErLFqHEEPsLLrOOTsRT TAILED BIRDwHREADqICKNESSrLKqKINqLASHsVErICEqMALLqNOUTqOUN",
   "DqPEARsECHrIRITrOONrROUTqQUAREqTANDrEAMsPrONEsPtPINGqUNqWEETpTABLErLLrNNED LEATHERqENqIGERrLEq",
   "ONGUErOTHqRACKrEErIPODqURBANsTLEqWOs HANDSpUSEpVALLEYqILLAGEpWALKt ENCLOSURErTERqEAPONrSTqHEAT",
   "rITEqINDsEqOMANrRKqRAPrONGpYELLOWdNADA AI LENGTH MARKiDIGIT EIGHToFIVEpOURoNINEoONEoSEVENpIXoT",
   "HREEpWOoZEROiLENGTH MARKkTTER AqAqIqUpBAqHApCAqHApDAqDArHAqHApEqEpFApGAqHApHApIqIpJAqHApKAqHAp",
   "LAqLArLApMApNArKAARA POLLUqGAqNAqYApOqOpPAqHApRAqRApSAqHAqSApTAqHAqTArHApUqUpVAqOCALIC LyLxRyR",
   "pYAiSIGN ANUSVARAoVAGRAHAnCANDRABINDUnJIHVAMULIYAnNUKTAnSIDDHAMoPACING CANDRABINDUnUPADHMANIYA",
   "nVIRAMApSARGAiVOWEL SIGN AAuIuUtEuEtIuItOuOtUuUtVOCALIC LzdLzcRzdRcTAKANA DIGRAPH KOTOjITERATI",
   "ON MARKjLETTER ArRCHAIC EyWUyYEzaIqBArErIrOrUqDArErIrOrUqEqGArErIrOrUqHArErIrOrUqIqKArErIrOrUq",
   "MArErIsNNAN NASALIZED TONE-1zn2zn3zn4zn5zn7zn8xTONE-2zd3zd4zd5zd7zd8rOrUqNrArErIrOrUqOqPArErIr",
   "OrUqRArErIrOrUqSArErIrMALL AwEwHAxExIxOxUwIwKAxExUwMUwNxUwOwRAxExIxOxUwSIxUwTOxUwUwWAxExIxOwYA",
   "xOxUrOrUqTArErIrOrUqUqVArErIrOrUqWArErIrOqYArOrUqZArErIrOrUjMIDDLE DOTjVOICED ITERATION MARKi-",
   "HIRAGANA DOUBLE HYPHENsPROLONGED SOUND MARKsSEMI-VOICED SOUND MARKsVOICED SOUND MARKcYAH LI DI",
   "GIT EIGHTpFIVEqOURpNINEpONEpSEVENqIXpTHREEqWOpZEROjLETTER AqBAqCAqDAqGAqHArTAqIqKArHAqLAqMAqNA",
   "rGArYAqOErOqPArHAqRAqSArHAqTArHAqVAqWAqYAqZAjSIGN CWIoSHYAjTONE CALYAt PLOPHUoPLOPHUjVOWEL EqE",
   "pOpUqEbELVIN SIGNcYdBOARDi AND MOUSEdCAP TENbHAROSHTHI DIGIT FOURrONErTHREEsWOlFRACTION ONE HA",
   "LFlLETTER AsBAtHAsCAtHAsDAtDAuHAtHAsGAtHAsHAsJAsKAtHAtKAsLAsMAsNAtNAtYAsPAtHAsRAsSAtHAtSAsTAtH",
   "AtTAuHAuTAvHAsVAtHAsYAsZAlNUMBER ONE HUNDREDwTHOUSANDsTENtWENTYlPUNCTUATION CIRCLEyRESCENT BAR",
   "xDANDAyOTzaUBLE DANDAxLINESyOTUSxMANGALAMxSMALL CIRCLElSIGN ANUSVARAqBAR ABOVEqCAUDAqDOT BELOW",
   "sUBLE RING BELOWqVISARGAlVIRAMAmOWEL LENGTH MARKrSIGN EwIwOwUwVOCALIC RcITAN SMALL SCRIPT FILL",
   "ERcMER CURRENCY SYMBOL RIELgDIGIT EIGHTmFIVEnOURmNINEmONEmSEVENnIXmTHREEnWOmZEROgINDEPENDENT V",
   "OWEL LYzbYyQAAzbIzbQzbUzaEzaIzbIzaOO TYPE ONEziTWOzaUzbKzbUzcVyRYzbYgLETTER BAnCAoHApOoOnDAoOn",
   "HAnKAoHApOoOnLAoOnMOnNGOoNOoOoYOnPHApOoOnQAnROnSAoHAoSOnTAoHApOoOoTHAqOnVOnYOgSIGN AHSDAmTTHAC",
   "ANmVAKRAHASANYAlBANTOCnRIYOOSANnTHAMASATmEYYALlCAMNUC PII KUUHmOENGlKAKABATmHANmOOMUUTlLEK TOO",
   "lMUUSIKATOANlNIKAHITlPHNAEK MUANlREAHMUKmOBATlSAMYOK SANNYAlTOANDAKHIATmRIISAPlVIRIAMlYUUKALEA",
   "PINTUhYMBOL BEI KOETrROCoUON KOETsROCnDAP KOETrROCq-BEI KOETvROCsUON KOETwROCrMUOY KOETwROCrPI",
   "I KOETvROCsRAM KOETwROCnLEK ATTAK BEIyUONxMUOYxPIIyRAMzc-BEIzeUONzdMUOYzdPIIxSONnMUOY KOETsROC",
   "nPATHAMASAToII KOETrROCoRAM KOETsROCr-BEI KOETwROCtUON KOETxROCsMUOY KOETxROCsPII KOETwROCnTUT",
   "EYASATgVOWEL INHERENT AAwQmSIGN AAsEsIsUrErIsEsIrOEsOrUsAsUrYsAsYcOJKI ABBREVIATION SIGNhDANDA",
   "iOUBLE DANDAoSECTION MARKhLETTER ApApIpUoBApBApHAoCApHAoDApDAqDAqHApHAoEoGApGApHAoHAoIoJApJAoK",
   "ApHAoLApLAoMAoNApGApNApYAoOoPApHAoRAoSAoTApHApTAqHAoUoVAoYAhSECTION MARKiIGN ANUSVARAmNUKTAmSH",
   "ADDAnUKUNmVIRAMAhVOWEL SIGN AAtItUsEsItIsOsUhWORD SEPARATORcUDAWADI DIGIT EIGHTqFIVErOURqNINEq",
   "ONEqSEVENrIXqTHREErWOqZEROkLETTER AsAsIsUrBAsBAsHArCAsHArDAsDAtDAtHAsHArErGAsGAsHArHArIsIrJAsH",
   "AsJArKAsHArLArMArNAsGAsNAsYArOrPAsHArRAsRArSAsHArTAsHAsTAtHArUsUrVArYAkSIGN ANUSVARApNUKTApVIR",
   "AMAkVOWEL SIGN AAwIwUvEvIwIvOvUwUbIMONOcP SIGNcSSe MARKeING CAT FACE WITH CLOSED EYESiFACEm WI",
   "TH CLOSED EYESsSMILING EYEScTEcWIFRUITbNEELING PERSONcOTbOALAcREAN STANDARD SYMBOLbRONOS"]

end SystemDynamics.Text
