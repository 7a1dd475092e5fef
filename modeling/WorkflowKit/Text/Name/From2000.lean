/-
# Names of characters from U+2000 to U+27FF

The names are written as `WorkflowKit.Text.Name` says.
-/

namespace WorkflowKit
namespace Text
namespace Name

/-- The names of the characters from U+2000 to U+27FF. -/
def namesFrom2000 : String := "
<2000>aEN QUADbM QUADbN SPACEbM SPACEaTHREE-PER-EM SPACEaFOUR-PER-EM SPACEaSIX-PER-EM SPACE
aFIGURE SPACEaPUNCTUATION SPACEaTHIN SPACEaHAIR SPACEaZERO WIDTH SPACElNON-JOINERlJOINER
aLEFT-TO-RIGHT MARKaRIGHT-TO-LEFT MARKaHYPHENaNON-BREAKING HYPHENaFIGURE DASHaEN DASHbM DASH
aHORIZONTAL BARaDOUBLE VERTICAL LINEhLOW LINEaLEFT SINGLE QUOTATION MARK
aRIGHT SINGLE QUOTATION MARKaSINGLE LOW-9 QUOTATION MARKhHIGH-REVERSED-9 QUOTATION MARK
aLEFT DOUBLE QUOTATION MARKaRIGHT DOUBLE QUOTATION MARKaDOUBLE LOW-9 QUOTATION MARK
hHIGH-REVERSED-9 QUOTATION MARKbAGGERbOUBLE DAGGERaBULLETaTRIANGULAR BULLETaONE DOT LEADER
aTWO DOT LEADERaHORIZONTAL ELLIPSISbYPHENATION POINTaLINE SEPARATORaPARAGRAPH SEPARATOR
aLEFT-TO-RIGHT EMBEDDINGaRIGHT-TO-LEFT EMBEDDINGaPOP DIRECTIONAL FORMATTINGaLEFT-TO-RIGHT OVERRIDE
aRIGHT-TO-LEFT OVERRIDEaNARROW NO-BREAK SPACEaPER MILLE SIGNeTEN THOUSAND SIGNbRIMEaDOUBLE PRIME
aTRIPLE PRIMEaREVERSED PRIMEjDOUBLE PRIMEjTRIPLE PRIMEaCARET
aSINGLE LEFT-POINTING ANGLE QUOTATION MARKhRIGHT-POINTING ANGLE QUOTATION MARKaREFERENCE MARK
aDOUBLE EXCLAMATION MARKaINTERROBANGaOVERLINEaUNDERTIEaCHARACTER TIEbARET INSERTION POINTaASTERISM
aHYPHEN BULLETaFRACTION SLASHaLEFT SQUARE BRACKET WITH QUILLaRIGHT SQUARE BRACKET WITH QUILL
aDOUBLE QUESTION MARKaQUESTION EXCLAMATION MARKaEXCLAMATION QUESTION MARKaTIRONIAN SIGN ET
aREVERSED PILCROW SIGNaBLACK LEFTWARDS BULLETgRIGHTWARDS BULLETaLOW ASTERISKaREVERSED SEMICOLON
aCLOSE UPaTWO ASTERISKS ALIGNED VERTICALLYaCOMMERCIAL MINUS SIGNaSWUNG DASHaINVERTED UNDERTIE
aFLOWER PUNCTUATION MARKaTHREE DOT PUNCTUATIONaQUADRUPLE PRIMEaFOUR DOT PUNCTUATION
bIVE DOT PUNCTUATIONaTWO DOT PUNCTUATIONaFOUR DOT MARKaDOTTED CROSSaTRICOLONaVERTICAL FOUR DOTS
aMEDIUM MATHEMATICAL SPACEaWORD JOINERaFUNCTION APPLICATIONaINVISIBLE TIMESkSEPARATORkPLUS
<2066>aLEFT-TO-RIGHT ISOLATEaRIGHT-TO-LEFT ISOLATEaFIRST STRONG ISOLATEaPOP DIRECTIONAL ISOLATE
aINHIBIT SYMMETRIC SWAPPINGaACTIVATE SYMMETRIC SWAPPINGaINHIBIT ARABIC FORM SHAPING
aACTIVATE ARABIC FORM SHAPINGaNATIONAL DIGIT SHAPESbOMINAL DIGIT SHAPESaSUPERSCRIPT ZERO
mLATIN SMALL LETTER I<2074>mFOURnIVEmSIXnEVENmEIGHTmNINEmPLUS SIGNmMINUSmEQUALS SIGN
mLEFT PARENTHESISmRIGHT PARENTHESISmLATIN SMALL LETTER NcBSCRIPT ZEROkONEkTWOlHREEkFOURlIVEkSIX
lEVENkEIGHTkNINEkPLUS SIGNkMINUSkEQUALS SIGNkLEFT PARENTHESISkRIGHT PARENTHESIS
<2090>aLATIN SUBSCRIPT SMALL LETTER AzeEzeOzeXzeSCHWAzeHzeKzeLzeMzeNzePzeSzeT
<20A0>aEURO-CURRENCY SIGNaCOLON SIGNbRUZEIRO SIGNaFRENCH FRANC SIGNaLIRA SIGNaMILL SIGNaNAIRA SIGN
aPESETA SIGNaRUPEE SIGNaWON SIGNaNEW SHEQEL SIGNaDONG SIGNaEURO SIGNaKIP SIGNaTUGRIK SIGN
aDRACHMA SIGNaGERMAN PENNY SIGNaPESO SIGNaGUARANI SIGNaAUSTRAL SIGNaHRYVNIA SIGNaCEDI SIGN
aLIVRE TOURNOIS SIGNaSPESMILO SIGNaTENGE SIGNaINDIAN RUPEE SIGNaTURKISH LIRA SIGNaNORDIC MARK SIGN
aMANAT SIGNaRUBLE SIGNaLARI SIGNaBITCOIN SIGNaSOM SIGN<20D0>aCOMBINING LEFT HARPOON ABOVE
kRIGHT HARPOON ABOVEkLONG VERTICAL LINE OVERLAYkSHORT VERTICAL LINE OVERLAY
kANTICLOCKWISE ARROW ABOVEkCLOCKWISE ARROW ABOVEkLEFT ARROW ABOVEkRIGHT ARROW ABOVEmNG OVERLAY
kCLOCKWISE RING OVERLAYkANTICLOCKWISE RING OVERLAYkTHREE DOTS ABOVEkFOUR DOTS ABOVE
kENCLOSING CIRCLEuSQUAREuDIAMONDuCIRCLE BACKSLASHkLEFT RIGHT ARROW ABOVEkENCLOSING SCREENuKEYCAP
uUPWARD POINTING TRIANGLEkREVERSE SOLIDUS OVERLAYkDOUBLE VERTICAL STROKE OVERLAYkANNUITY SYMBOL
kTRIPLE UNDERDOTkWIDE BRIDGE ABOVEkLEFTWARDS ARROW OVERLAYlONG DOUBLE SOLIDUS OVERLAY
kRIGHTWARDS HARPOON WITH BARB DOWNWARDSkLEFTWARDS HARPOON WITH BARB DOWNWARDSo ARROW BELOW
kRIGHT ARROW BELOWkASTERISK ABOVE<2100>aACCOUNT OFbDDRESSED TO THE SUBJECTaDOUBLE-STRUCK CAPITAL C
bEGREE CELSIUSaCENTRE LINE SYMBOLbARE OFcDA UNAaEULER CONSTANTaSCRUPLEaDEGREE FAHRENHEIT
aSCRIPT SMALL GhCAPITAL HaBLACK-LETTER CAPITAL HaDOUBLE-STRUCK CAPITAL HaPLANCK CONSTANT
p OVER TWO PIaSCRIPT CAPITAL IaBLACK-LETTER CAPITAL IaSCRIPT CAPITAL LhSMALL LaL B BAR SYMBOL
aDOUBLE-STRUCK CAPITAL NaNUMERO SIGNaSOUND RECORDING COPYRIGHTbCRIPT CAPITAL P
aDOUBLE-STRUCK CAPITAL PwQaSCRIPT CAPITAL RaBLACK-LETTER CAPITAL RaDOUBLE-STRUCK CAPITAL R
aPRESCRIPTION TAKEaRESPONSEaSERVICE MARKaTELEPHONE SIGNbRADE MARK SIGNaVERSICLE
aDOUBLE-STRUCK CAPITAL ZaOUNCE SIGNbHM SIGNaINVERTED OHM SIGNaBLACK-LETTER CAPITAL Z
aTURNED GREEK SMALL LETTER IOTAaKELVIN SIGNaANGSTROM SIGNaSCRIPT CAPITAL BaBLACK-LETTER CAPITAL C
aESTIMATED SYMBOLaSCRIPT SMALL EhCAPITAL EpFaTURNED CAPITAL FaSCRIPT CAPITAL MhSMALL OaALEF SYMBOL
aBET SYMBOLaGIMEL SYMBOLaDALET SYMBOLaINFORMATION SOURCEaROTATED CAPITAL QaFACSIMILE SIGN
aDOUBLE-STRUCK SMALL PIuGAMMAoCAPITAL GAMMAwPIoN-ARY SUMMATIONaTURNED SANS-SERIF CAPITAL GzbL
aREVERSED SANS-SERIF CAPITAL LaTURNED SANS-SERIF CAPITAL YaDOUBLE-STRUCK ITALIC CAPITAL DvSMALL D
zcEzcIzcJaPROPERTY LINEaTURNED AMPERSANDaPER SIGNaAKTIESELSKABaTURNED SMALL F
aSYMBOL FOR SAMARITAN SOURCEaVULGAR FRACTION ONE SEVENTHuNINTHuTENTHvHIRDqTWO THIRDSqONE FIFTH
qTWO FIFTHSrHREE FIFTHSqFOUR FIFTHSqONE SIXTHqFIVE SIXTHSqONE EIGHTHqTHREE EIGHTHSqFIVE EIGHTHS
qSEVEN EIGHTHSaFRACTION NUMERATOR ONEaROMAN NUMERAL ONEoTWOpHREEoFOURpIVEoSIXpEVENoEIGHToNINEoTEN
oELEVENoTWELVEoFIFTYoONE HUNDREDoFIVE HUNDREDoONE THOUSANDaSMALL ROMAN NUMERAL ONEuTWOvHREEuFOUR
vIVEuSIXvEVENuEIGHTuNINEuTENuELEVENuTWELVEuFIFTYuONE HUNDREDuFIVE HUNDREDuONE THOUSAND
aROMAN NUMERAL ONE THOUSAND C DoFIVE THOUSANDoTEN THOUSANDoREVERSED ONE HUNDRED
aLATIN SMALL LETTER REVERSED CaROMAN NUMERAL SIX LATE FORMoFIFTY EARLY FORMuTHOUSAND
oONE HUNDRED THOUSANDaVULGAR FRACTION ZERO THIRDSaTURNED DIGIT TWOoHREE<2190>aLEFTWARDS ARROW
aUPWARDS ARROWaRIGHTWARDS ARROWaDOWNWARDS ARROWaLEFT RIGHT ARROWaUP DOWN ARROWaNORTH WEST ARROW
gEAST ARROWaSOUTH EAST ARROWgWEST ARROWaLEFTWARDS ARROW WITH STROKEaRIGHTWARDS ARROW WITH STROKE
aLEFTWARDS WAVE ARROWaRIGHTWARDS WAVE ARROWaLEFTWARDS TWO HEADED ARROWaUPWARDS TWO HEADED ARROW
aRIGHTWARDS TWO HEADED ARROWaDOWNWARDS TWO HEADED ARROWaLEFTWARDS ARROW WITH TAIL
aRIGHTWARDS ARROW WITH TAILaLEFTWARDS ARROW FROM BARaUPWARDS ARROW FROM BAR
aRIGHTWARDS ARROW FROM BARaDOWNWARDS ARROW FROM BARaUP DOWN ARROW WITH BASE
aLEFTWARDS ARROW WITH HOOKaRIGHTWARDS ARROW WITH HOOKaLEFTWARDS ARROW WITH LOOP
aRIGHTWARDS ARROW WITH LOOPaLEFT RIGHT WAVE ARROWlARROW WITH STROKEaDOWNWARDS ZIGZAG ARROW
aUPWARDS ARROW WITH TIP LEFTWARDSxRIGHTWARDSaDOWNWARDS ARROW WITH TIP LEFTWARDSzRIGHTWARDS
aRIGHTWARDS ARROW WITH CORNER DOWNWARDSaDOWNWARDS ARROW WITH CORNER LEFTWARDS
aANTICLOCKWISE TOP SEMICIRCLE ARROWaCLOCKWISE TOP SEMICIRCLE ARROWaNORTH WEST ARROW TO LONG BAR
aLEFTWARDS ARROW TO BAR OVER RIGHTWARDS ARROW TO BARaANTICLOCKWISE OPEN CIRCLE ARROW
aCLOCKWISE OPEN CIRCLE ARROWaLEFTWARDS HARPOON WITH BARB UPWARDSzdDOWNWARDS
aUPWARDS HARPOON WITH BARB RIGHTWARDSzbLEFTWARDSaRIGHTWARDS HARPOON WITH BARB UPWARDSzeDOWNWARDS
aDOWNWARDS HARPOON WITH BARB RIGHTWARDSzdLEFTWARDSaRIGHTWARDS ARROW OVER LEFTWARDS ARROW
aUPWARDS ARROW LEFTWARDS OF DOWNWARDS ARROWaLEFTWARDS ARROW OVER RIGHTWARDS ARROWkPAIRED ARROWS
aUPWARDS PAIRED ARROWSaRIGHTWARDS PAIRED ARROWSaDOWNWARDS PAIRED ARROWS
aLEFTWARDS HARPOON OVER RIGHTWARDS HARPOONaRIGHTWARDS HARPOON OVER LEFTWARDS HARPOON
aLEFTWARDS DOUBLE ARROW WITH STROKEe RIGHT DOUBLE ARROW WITH STROKE
aRIGHTWARDS DOUBLE ARROW WITH STROKEaLEFTWARDS DOUBLE ARROWaUPWARDS DOUBLE ARROW
aRIGHTWARDS DOUBLE ARROWaDOWNWARDS DOUBLE ARROWaLEFT RIGHT DOUBLE ARROWaUP DOWN DOUBLE ARROW
aNORTH WEST DOUBLE ARROWgEAST DOUBLE ARROWaSOUTH EAST DOUBLE ARROWgWEST DOUBLE ARROW
aLEFTWARDS TRIPLE ARROWaRIGHTWARDS TRIPLE ARROWaLEFTWARDS SQUIGGLE ARROWaRIGHTWARDS SQUIGGLE ARROW
aUPWARDS ARROW WITH DOUBLE STROKEaDOWNWARDS ARROW WITH DOUBLE STROKEaLEFTWARDS DASHED ARROW
aUPWARDS DASHED ARROWaRIGHTWARDS DASHED ARROWaDOWNWARDS DASHED ARROWaLEFTWARDS ARROW TO BAR
aRIGHTWARDS ARROW TO BARaLEFTWARDS WHITE ARROWaUPWARDS WHITE ARROWaRIGHTWARDS WHITE ARROW
aDOWNWARDS WHITE ARROWaUPWARDS WHITE ARROW FROM BARuON PEDESTALzg WITH HORIZONTAL BAR
zmVERTICAL BARoDOUBLE ARROWzb ON PEDESTALaRIGHTWARDS WHITE ARROW FROM WALL
aNORTH WEST ARROW TO CORNERaSOUTH EAST ARROW TO CORNERaUP DOWN WHITE ARROW
aRIGHT ARROW WITH SMALL CIRCLEaDOWNWARDS ARROW LEFTWARDS OF UPWARDS ARROWaTHREE RIGHTWARDS ARROWS
aLEFTWARDS ARROW WITH VERTICAL STROKEaRIGHTWARDS ARROW WITH VERTICAL STROKE
aLEFT RIGHT ARROW WITH VERTICAL STROKEeWARDS ARROW WITH DOUBLE VERTICAL STROKE
aRIGHTWARDS ARROW WITH DOUBLE VERTICAL STROKEaLEFT RIGHT ARROW WITH DOUBLE VERTICAL STROKE
eWARDS OPEN-HEADED ARROWaRIGHTWARDS OPEN-HEADED ARROWaLEFT RIGHT OPEN-HEADED ARROWaFOR ALL
aCOMPLEMENTaPARTIAL DIFFERENTIALaTHERE EXISTSgDOES NOT EXISTaEMPTY SETaINCREMENTaNABLAaELEMENT OF
aNOT AN ELEMENT OFaSMALL ELEMENT OFaCONTAINS AS MEMBERaDOES NOT CONTAIN AS MEMBER
aSMALL CONTAINS AS MEMBERaEND OF PROOFaN-ARY PRODUCTgCOPRODUCTgSUMMATIONaMINUS SIGNf-OR-PLUS SIGN
aDOT PLUSbIVISION SLASHaSET MINUSaASTERISK OPERATORaRING OPERATORaBULLET OPERATORaSQUARE ROOT
aCUBE ROOTaFOURTH ROOTaPROPORTIONAL TOaINFINITYaRIGHT ANGLEaANGLEaMEASURED ANGLEaSPHERICAL ANGLE
aDIVIDESbOES NOT DIVIDEaPARALLEL TOaNOT PARALLEL TOaLOGICAL ANDiORaINTERSECTIONaUNIONaINTEGRAL
aDOUBLE INTEGRALaTRIPLE INTEGRALaCONTOUR INTEGRALaSURFACE INTEGRALaVOLUME INTEGRAL
aCLOCKWISE INTEGRALkCONTOUR INTEGRALaANTICLOCKWISE CONTOUR INTEGRALaTHEREFOREaBECAUSEaRATIO
aPROPORTIONaDOT MINUSaEXCESSaGEOMETRIC PROPORTIONaHOMOTHETICaTILDE OPERATORaREVERSED TILDE
aINVERTED LAZY SaSINE WAVEaWREATH PRODUCTaNOT TILDEaMINUS TILDEaASYMPTOTICALLY EQUAL TO
aNOT ASYMPTOTICALLY EQUAL TOaAPPROXIMATELY EQUAL TOoBUT NOT ACTUALLY EQUAL TO
aNEITHER APPROXIMATELY NOR ACTUALLY EQUAL TOaALMOST EQUAL TOaNOT ALMOST EQUAL TO
aALMOST EQUAL OR EQUAL TOaTRIPLE TILDEaALL EQUAL TOaEQUIVALENT TOaGEOMETRICALLY EQUIVALENT TO
aDIFFERENCE BETWEENaAPPROACHES THE LIMITaGEOMETRICALLY EQUAL TO
aAPPROXIMATELY EQUAL TO OR THE IMAGE OFaIMAGE OF OR APPROXIMATELY EQUAL TOaCOLON EQUALS
aEQUALS COLONaRING IN EQUAL TOfEQUAL TOaCORRESPONDS TOaESTIMATESbQUIANGULAR TOaSTAR EQUALS
aDELTA EQUAL TOaEQUAL TO BY DEFINITIONaMEASURED BYaQUESTIONED EQUAL TOaNOT EQUAL TOaIDENTICAL TO
aNOT IDENTICAL TOaSTRICTLY EQUIVALENT TOaLESS-THAN OR EQUAL TOaGREATER-THAN OR EQUAL TO
aLESS-THAN OVER EQUAL TOaGREATER-THAN OVER EQUAL TOaLESS-THAN BUT NOT EQUAL TO
aGREATER-THAN BUT NOT EQUAL TOaMUCH LESS-THANfGREATER-THANaBETWEENaNOT EQUIVALENT TOeLESS-THAN
eGREATER-THANbEITHER LESS-THAN NOR EQUAL TOiGREATER-THAN NOR EQUAL TOaLESS-THAN OR EQUIVALENT TO
aGREATER-THAN OR EQUIVALENT TOaNEITHER LESS-THAN NOR EQUIVALENT TOiGREATER-THAN NOR EQUIVALENT TO
aLESS-THAN OR GREATER-THANaGREATER-THAN OR LESS-THANaNEITHER LESS-THAN NOR GREATER-THAN
iGREATER-THAN NOR LESS-THANaPRECEDESaSUCCEEDSaPRECEDES OR EQUAL TOaSUCCEEDS OR EQUAL TO
aPRECEDES OR EQUIVALENT TOaSUCCEEDS OR EQUIVALENT TOaDOES NOT PRECEDEjSUCCEEDaSUBSET OFcPERSET OF
aNOT A SUBSET OFiPERSET OFaSUBSET OF OR EQUAL TOcPERSET OF OR EQUAL TO
aNEITHER A SUBSET OF NOR EQUAL TOmPERSET OF NOR EQUAL TOaSUBSET OF WITH NOT EQUAL TO
cPERSET OF WITH NOT EQUAL TOaMULTISETi MULTIPLICATIONjUNIONaSQUARE IMAGE OFhORIGINAL OF
hIMAGE OF OR EQUAL TOhORIGINAL OF OR EQUAL TOhCAPiUPaCIRCLED PLUSiMINUSiTIMESiDIVISION SLASH
jOT OPERATORiRING OPERATORiASTERISK OPERATORiEQUALSiDASHaSQUARED PLUSiMINUSiTIMESiDOT OPERATOR
aRIGHT TACKaLEFT TACKaDOWN TACKaUP TACKaASSERTIONaMODELSaTRUEaFORCES
aTRIPLE VERTICAL BAR RIGHT TURNSTILEaDOUBLE VERTICAL BAR DOUBLE RIGHT TURNSTILEcES NOT PROVE
aNOT TRUEaDOES NOT FORCEaNEGATED DOUBLE VERTICAL BAR DOUBLE RIGHT TURNSTILE
aPRECEDES UNDER RELATIONaSUCCEEDS UNDER RELATIONaNORMAL SUBGROUP OFaCONTAINS AS NORMAL SUBGROUP
aNORMAL SUBGROUP OF OR EQUAL TOaCONTAINS AS NORMAL SUBGROUP OR EQUAL TOaORIGINAL OFaIMAGE OF
aMULTIMAPaHERMITIAN CONJUGATE MATRIXaINTERCALATEaXORaNANDbORaRIGHT ANGLE WITH ARCgTRIANGLE
aN-ARY LOGICAL ANDoORgINTERSECTIONgUNIONaDIAMOND OPERATORbOT OPERATORaSTAR OPERATORaDIVISION TIMES
aBOWTIEaLEFT NORMAL FACTOR SEMIDIRECT PRODUCTaRIGHT NORMAL FACTOR SEMIDIRECT PRODUCT
aLEFT SEMIDIRECT PRODUCTaRIGHT SEMIDIRECT PRODUCTbEVERSED TILDE EQUALSaCURLY LOGICAL ORoAND
aDOUBLE SUBSETjPERSEThINTERSECTIONhUNIONaPITCHFORKaEQUAL AND PARALLEL TOaLESS-THAN WITH DOT
aGREATER-THAN WITH DOTaVERY MUCH LESS-THANkGREATER-THANaLESS-THAN EQUAL TO OR GREATER-THAN
aGREATER-THAN EQUAL TO OR LESS-THANaEQUAL TO OR LESS-THANmGREATER-THANmPRECEDESmSUCCEEDS
aDOES NOT PRECEDE OR EQUALjSUCCEED OR EQUALaNOT SQUARE IMAGE OF OR EQUAL TO
lORIGINAL OF OR EQUAL TOaSQUARE IMAGE OF OR NOT EQUAL TOhORIGINAL OF OR NOT EQUAL TO
aLESS-THAN BUT NOT EQUIVALENT TOaGREATER-THAN BUT NOT EQUIVALENT TOaPRECEDES BUT NOT EQUIVALENT TO
aSUCCEEDS BUT NOT EQUIVALENT TOaNOT NORMAL SUBGROUP OFaDOES NOT CONTAIN AS NORMAL SUBGROUP
aNOT NORMAL SUBGROUP OF OR EQUAL TOaDOES NOT CONTAIN AS NORMAL SUBGROUP OR EQUALaVERTICAL ELLIPSIS
aMIDLINE HORIZONTAL ELLIPSISaUP RIGHT DIAGONAL ELLIPSISaDOWN RIGHT DIAGONAL ELLIPSIS
aELEMENT OF WITH LONG HORIZONTAL STROKEqVERTICAL BAR AT END OF HORIZONTAL STROKE
aSMALL ELEMENT OF WITH VERTICAL BAR AT END OF HORIZONTAL STROKEaELEMENT OF WITH DOT ABOVEqOVERBAR
aSMALL ELEMENT OF WITH OVERBARaELEMENT OF WITH UNDERBARqTWO HORIZONTAL STROKES
aCONTAINS WITH LONG HORIZONTAL STROKEoVERTICAL BAR AT END OF HORIZONTAL STROKE
aSMALL CONTAINS WITH VERTICAL BAR AT END OF HORIZONTAL STROKEaCONTAINS WITH OVERBAR
aSMALL CONTAINS WITH OVERBARaZ NOTATION BAG MEMBERSHIPaDIAMETER SIGNaELECTRIC ARROWaHOUSE
aUP ARROWHEADaDOWN ARROWHEADaPROJECTIVEbERSPECTIVEaWAVY LINEaLEFT CEILINGaRIGHT CEILINGaLEFT FLOOR
aRIGHT FLOORaBOTTOM RIGHT CROPhLEFT CROPaTOP RIGHT CROPeLEFT CROPaREVERSED NOT SIGNaSQUARE LOZENGE
aARCaSEGMENTcCTORaTELEPHONE RECORDERaPOSITION INDICATORaVIEWDATA SQUAREaPLACE OF INTEREST SIGN
aTURNED NOT SIGNaWATCHaHOURGLASSaTOP LEFT CORNEReRIGHT CORNERaBOTTOM LEFT CORNERhRIGHT CORNER
aTOP HALF INTEGRALaBOTTOM HALF INTEGRALaFROWNaSMILEaUP ARROWHEAD BETWEEN TWO HORIZONTAL BARS
aOPTION KEYaERASE TO THE RIGHTaX IN A RECTANGLE BOXaKEYBOARDaLEFT-POINTING ANGLE BRACKET
aRIGHT-POINTING ANGLE BRACKETaERASE TO THE LEFTaBENZENE RINGaCYLINDRICITYaALL AROUND-PROFILE
aSYMMETRYaTOTAL RUNOUTaDIMENSION ORIGINaCONICAL TAPERaSLOPEaCOUNTERBOREhSINK
aAPL FUNCTIONAL SYMBOL I-BEAMwSQUISH QUADwQUAD EQUALzcDIVIDEzeAMONDzcJOTzcCIRCLEwCIRCLE STILEzeJOT
wSLASH BARwBACKSLASH BARwQUAD SLASHzcBACKSLASHzcLESS-THANzcGREATER-THANwLEFTWARDS VANE
wRIGHTWARDS VANEwQUAD LEFTWARDS ARROWzcRIGHTWARDS ARROWwCIRCLE BACKSLASHwDOWN TACK UNDERBAR
xELTA STILEwQUAD DOWN CARETzdELTAwDOWN TACK JOTwUPWARDS VANEwQUAD UPWARDS ARROWwUP TACK OVERBAR
wDEL STILEwQUAD UP CARETzcDELwUP TACK JOTwDOWNWARDS VANEwQUAD DOWNWARDS ARROWyOTE UNDERBAR
wDELTA UNDERBARxIAMOND UNDERBARwJOT UNDERBARwCIRCLE UNDERBARwUP SHOE JOTwQUOTE QUADwCIRCLE STAR
wQUAD COLONwUP TACK DIAERESISwDEL DIAERESISwSTAR DIAERESISwJOT DIAERESISwCIRCLE DIAERESIS
wDOWN SHOE STILEwLEFT SHOE STILEwTILDE DIAERESISwGREATER-THAN DIAERESISwCOMMA BARwDEL TILDEwZILDE
wSTILE TILDExEMICOLON UNDERBARwQUAD NOT EQUALzcQUESTIONwDOWN CARET TILDEwUP CARET TILDEwIOTAwRHO
wOMEGAwALPHA UNDERBARwEPSILON UNDERBARwIOTA UNDERBARwOMEGA UNDERBARwALPHAaNOT CHECK MARK
aRIGHT ANGLE WITH DOWNWARDS ZIGZAG ARROWaSHOULDERED OPEN BOXaBELL SYMBOL
aVERTICAL LINE WITH MIDDLE DOTaINSERTION SYMBOLaCONTINUOUS UNDERLINE SYMBOL
aDISCONTINUOUS UNDERLINE SYMBOLaEMPHASIS SYMBOLaCOMPOSITION SYMBOL
aWHITE SQUARE WITH CENTRE VERTICAL LINEaENTER SYMBOLaALTERNATIVE KEY SYMBOLaHELM SYMBOL
aCIRCLED HORIZONTAL BAR WITH NOTCHiTRIANGLE DOWNaBROKEN CIRCLE WITH NORTHWEST ARROWaUNDO SYMBOL
aMONOSTABLE SYMBOLaHYSTERESIS SYMBOLaOPEN-CIRCUIT-OUTPUT H-TYPE SYMBOLuL-TYPE SYMBOL
aPASSIVE-PULL-DOWN-OUTPUT SYMBOLnUP-OUTPUT SYMBOLaDIRECT CURRENT SYMBOL FORM TWO
aSOFTWARE-FUNCTION SYMBOLaAPL FUNCTIONAL SYMBOL QUADaDECIMAL SEPARATOR KEY SYMBOLaPREVIOUS PAGE
aNEXT PAGEaPRINT SCREEN SYMBOLaCLEAR SCREEN SYMBOLaLEFT PARENTHESIS UPPER HOOKrEXTENSION
rLOWER HOOKaRIGHT PARENTHESIS UPPER HOOKsEXTENSIONsLOWER HOOKaLEFT SQUARE BRACKET UPPER CORNER
uEXTENSIONuLOWER CORNERaRIGHT SQUARE BRACKET UPPER CORNERvEXTENSIONvLOWER CORNER
aLEFT CURLY BRACKET UPPER HOOKtMIDDLE PIECEtLOWER HOOKaCURLY BRACKET EXTENSION
aRIGHT CURLY BRACKET UPPER HOOKuMIDDLE PIECEuLOWER HOOKaINTEGRAL EXTENSION
aHORIZONTAL LINE EXTENSIONaUPPER LEFT OR LOWER RIGHT CURLY BRACKET SECTION
gRIGHT OR LOWER LEFT CURLY BRACKET SECTIONaSUMMATION TOPkBOTTOMaTOP SQUARE BRACKET
aBOTTOM SQUARE BRACKETv OVER TOP SQUARE BRACKETaRADICAL SYMBOL BOTTOMaLEFT VERTICAL BOX LINE
aRIGHT VERTICAL BOX LINEaHORIZONTAL SCAN LINE-1v3v7v9
aDENTISTRY SYMBOL LIGHT VERTICAL AND TOP RIGHTzlBOTTOM RIGHTzhWITH CIRCLE
xDOWN AND HORIZONTAL WITH CIRCLExUP AND HORIZONTAL WITH CIRCLExVERTICAL WITH TRIANGLE
xDOWN AND HORIZONTAL WITH TRIANGLExUP AND HORIZONTAL WITH TRIANGLExVERTICAL AND WAVE
xDOWN AND HORIZONTAL WITH WAVExUP AND HORIZONTAL WITH WAVExDOWN AND HORIZONTALxUP AND HORIZONTAL
xVERTICAL AND TOP LEFTzlBOTTOM LEFTaSQUARE FOOTaRETURN SYMBOLaEJECT SYMBOLaVERTICAL LINE EXTENSION
aMETRICAL BREVEjLONG OVER SHORTjSHORT OVER LONGjLONG OVER TWO SHORTSjTWO SHORTS OVER LONGuJOINED
kRISEMEkETRASEMEjPENTASEMEaEARTH GROUNDaFUSEaTOP PARENTHESISaBOTTOM PARENTHESISaTOP CURLY BRACKET
aBOTTOM CURLY BRACKETaTOP TORTOISE SHELL BRACKETaBOTTOM TORTOISE SHELL BRACKETaWHITE TRAPEZIUM
aBENZENE RING WITH CIRCLEaSTRAIGHTNESSaFLATNESSaAC CURRENTaELECTRICAL INTERSECTION
aDECIMAL EXPONENT SYMBOLaBLACK RIGHT-POINTING DOUBLE TRIANGLEgLEFT-POINTING DOUBLE TRIANGLE
gUP-POINTING DOUBLE TRIANGLEgDOWN-POINTING DOUBLE TRIANGLE
gRIGHT-POINTING DOUBLE TRIANGLE WITH VERTICAL BARgLEFT-POINTING DOUBLE TRIANGLE WITH VERTICAL BAR
gRIGHT-POINTING TRIANGLE WITH DOUBLE VERTICAL BARaALARM CLOCKaSTOPWATCHaTIMER CLOCK
aHOURGLASS WITH FLOWING SANDaBLACK MEDIUM LEFT-POINTING TRIANGLEnRIGHT-POINTING TRIANGLE
nUP-POINTING TRIANGLEnDOWN-POINTING TRIANGLEaDOUBLE VERTICAL BARaBLACK SQUARE FOR STOP
gCIRCLE FOR RECORDaPOWER SYMBOLgON-OFF SYMBOLi SYMBOLgSLEEP SYMBOLaOBSERVER EYE SYMBOL
aSYMBOL FOR NULLlSTART OF HEADINGuTEXTlEND OF TEXTtRANSMISSIONnQUIRYlACKNOWLEDGElBELLmACKSPACE
lHORIZONTAL TABULATIONlLINE FEEDlVERTICAL TABULATIONlFORM FEEDlCARRIAGE RETURNlSHIFT OUTrIN
lDATA LINK ESCAPEmEVICE CONTROL ONEzbTWOzcHREEzbFOURlNEGATIVE ACKNOWLEDGElSYNCHRONOUS IDLE
lEND OF TRANSMISSION BLOCKlCANCELlEND OF MEDIUMlSUBSTITUTElESCAPElFILE SEPARATORlGROUP SEPARATOR
lRECORD SEPARATORlUNIT SEPARATORlSPACElDELETEaBLANK SYMBOLaOPEN BOXaSYMBOL FOR NEWLINE
lDELETE FORM TWOlSUBSTITUTE FORM TWO<2440>aOCR HOOKeCHAIReFORKeINVERTED FORKeBELT BUCKLEfOW TIE
fRANCH BANK IDENTIFICATIONeAMOUNT OF CHECKeDASHeCUSTOMER ACCOUNT NUMBEReDOUBLE BACKSLASH
<2460>aCIRCLED DIGIT ONEoTWOpHREEoFOURpIVEoSIXpEVENoEIGHToNINEiNUMBER TENpELEVENpTWELVEqHIRTEEN
pFOURTEENqIFTEENpSIXTEENqEVENTEENpEIGHTEENpNINETEENpTWENTYaPARENTHESIZED DIGIT ONEuTWOvHREEuFOUR
vIVEuSIXvEVENuEIGHTuNINEoNUMBER TENvELEVENvTWELVEwHIRTEENvFOURTEENwIFTEENvSIXTEENwEVENTEEN
vEIGHTEENvNINETEENvTWENTYaDIGIT ONE FULL STOPgTWO FULL STOPhHREE FULL STOPgFOUR FULL STOP
hIVE FULL STOPgSIX FULL STOPhEVEN FULL STOPgEIGHT FULL STOPgNINE FULL STOPaNUMBER TEN FULL STOP
hELEVEN FULL STOPhTWELVE FULL STOPiHIRTEEN FULL STOPhFOURTEEN FULL STOPiIFTEEN FULL STOP
hSIXTEEN FULL STOPiEVENTEEN FULL STOPhEIGHTEEN FULL STOPhNINETEEN FULL STOPhTWENTY FULL STOP
aPARENTHESIZED LATIN SMALL LETTER AziBziCziDziEziFziGziHziIziJziKziLziMziNziOziPziQziRziSziTziUziV
ziWziXziYziZaCIRCLED LATIN CAPITAL LETTER AzeBzeCzeDzeEzeFzeGzeHzeIzeJzeKzeLzeMzeNzeOzePzeQzeRzeS
zeTzeUzeVzeWzeXzeYzeZoSMALL LETTER AzcBzcCzcDzcEzcFzcGzcHzcIzcJzcKzcLzcMzcNzcOzcPzcQzcRzcSzcTzcU
zcVzcWzcXzcYzcZiDIGIT ZEROaNEGATIVE CIRCLED NUMBER ELEVENyTWELVEzHIRTEENyFOURTEENzIFTEENySIXTEEN
zEVENTEENyEIGHTEENyNINETEENyTWENTYaDOUBLE CIRCLED DIGIT ONEvTWOwHREEvFOURwIVEvSIXwEVENvEIGHTvNINE
pNUMBER TENaNEGATIVE CIRCLED DIGIT ZEROaBOX DRAWINGS LIGHT HORIZONTALnHEAVY HORIZONTAL
nLIGHT VERTICALnHEAVY VERTICALnLIGHT TRIPLE DASH HORIZONTALnHEAVY TRIPLE DASH HORIZONTAL
nLIGHT TRIPLE DASH VERTICALnHEAVY TRIPLE DASH VERTICALnLIGHT QUADRUPLE DASH HORIZONTAL
nHEAVY QUADRUPLE DASH HORIZONTALnLIGHT QUADRUPLE DASH VERTICALnHEAVY QUADRUPLE DASH VERTICAL
nLIGHT DOWN AND RIGHTnDOWN LIGHT AND RIGHT HEAVYsHEAVY AND RIGHT LIGHTnHEAVY DOWN AND RIGHT
nLIGHT DOWN AND LEFTnDOWN LIGHT AND LEFT HEAVYsHEAVY AND LEFT LIGHTnHEAVY DOWN AND LEFT
nLIGHT UP AND RIGHTnUP LIGHT AND RIGHT HEAVYqHEAVY AND RIGHT LIGHTnHEAVY UP AND RIGHT
nLIGHT UP AND LEFTnUP LIGHT AND LEFT HEAVYqHEAVY AND LEFT LIGHTnHEAVY UP AND LEFT
nLIGHT VERTICAL AND RIGHTnVERTICAL LIGHT AND RIGHT HEAVYnUP HEAVY AND RIGHT DOWN LIGHT
nDOWN HEAVY AND RIGHT UP LIGHTnVERTICAL HEAVY AND RIGHT LIGHTnDOWN LIGHT AND RIGHT UP HEAVY
nUP LIGHT AND RIGHT DOWN HEAVYnHEAVY VERTICAL AND RIGHTnLIGHT VERTICAL AND LEFT
nVERTICAL LIGHT AND LEFT HEAVYnUP HEAVY AND LEFT DOWN LIGHTnDOWN HEAVY AND LEFT UP LIGHT
nVERTICAL HEAVY AND LEFT LIGHTnDOWN LIGHT AND LEFT UP HEAVYnUP LIGHT AND LEFT DOWN HEAVY
nHEAVY VERTICAL AND LEFTnLIGHT DOWN AND HORIZONTALoEFT HEAVY AND RIGHT DOWN LIGHT
nRIGHT HEAVY AND LEFT DOWN LIGHTnDOWN LIGHT AND HORIZONTAL HEAVYsHEAVY AND HORIZONTAL LIGHT
nRIGHT LIGHT AND LEFT DOWN HEAVYnLEFT LIGHT AND RIGHT DOWN HEAVYnHEAVY DOWN AND HORIZONTAL
nLIGHT UP AND HORIZONTALoEFT HEAVY AND RIGHT UP LIGHTnRIGHT HEAVY AND LEFT UP LIGHT
nUP LIGHT AND HORIZONTAL HEAVYqHEAVY AND HORIZONTAL LIGHTnRIGHT LIGHT AND LEFT UP HEAVY
nLEFT LIGHT AND RIGHT UP HEAVYnHEAVY UP AND HORIZONTALnLIGHT VERTICAL AND HORIZONTAL
oEFT HEAVY AND RIGHT VERTICAL LIGHTnRIGHT HEAVY AND LEFT VERTICAL LIGHT
nVERTICAL LIGHT AND HORIZONTAL HEAVYnUP HEAVY AND DOWN HORIZONTAL LIGHT
nDOWN HEAVY AND UP HORIZONTAL LIGHTnVERTICAL HEAVY AND HORIZONTAL LIGHT
nLEFT UP HEAVY AND RIGHT DOWN LIGHTnRIGHT UP HEAVY AND LEFT DOWN LIGHT
nLEFT DOWN HEAVY AND RIGHT UP LIGHTnRIGHT DOWN HEAVY AND LEFT UP LIGHT
nDOWN LIGHT AND UP HORIZONTAL HEAVYnUP LIGHT AND DOWN HORIZONTAL HEAVY
nRIGHT LIGHT AND LEFT VERTICAL HEAVYnLEFT LIGHT AND RIGHT VERTICAL HEAVY
nHEAVY VERTICAL AND HORIZONTALnLIGHT DOUBLE DASH HORIZONTALnHEAVY DOUBLE DASH HORIZONTAL
nLIGHT DOUBLE DASH VERTICALnHEAVY DOUBLE DASH VERTICALnDOUBLE HORIZONTALuVERTICAL
pWN SINGLE AND RIGHT DOUBLEsDOUBLE AND RIGHT SINGLEpUBLE DOWN AND RIGHTpWN SINGLE AND LEFT DOUBLE
sDOUBLE AND LEFT SINGLEpUBLE DOWN AND LEFTnUP SINGLE AND RIGHT DOUBLEqDOUBLE AND RIGHT SINGLE
nDOUBLE UP AND RIGHTnUP SINGLE AND LEFT DOUBLEqDOUBLE AND LEFT SINGLEnDOUBLE UP AND LEFT
nVERTICAL SINGLE AND RIGHT DOUBLEwDOUBLE AND RIGHT SINGLEnDOUBLE VERTICAL AND RIGHT
nVERTICAL SINGLE AND LEFT DOUBLEwDOUBLE AND LEFT SINGLEnDOUBLE VERTICAL AND LEFT
pWN SINGLE AND HORIZONTAL DOUBLEsDOUBLE AND HORIZONTAL SINGLEpUBLE DOWN AND HORIZONTAL
nUP SINGLE AND HORIZONTAL DOUBLEqDOUBLE AND HORIZONTAL SINGLEnDOUBLE UP AND HORIZONTAL
nVERTICAL SINGLE AND HORIZONTAL DOUBLEwDOUBLE AND HORIZONTAL SINGLEnDOUBLE VERTICAL AND HORIZONTAL
nLIGHT ARC DOWN AND RIGHTzhLEFTxUP AND LEFTzfRIGHTtDIAGONAL UPPER RIGHT TO LOWER LEFT
zjLEFT TO LOWER RIGHTzdCROSStLEFTtUPtRIGHTtDOWNnHEAVY LEFTtUPtRIGHTtDOWN
nLIGHT LEFT AND HEAVY RIGHTtUP AND HEAVY DOWNnHEAVY LEFT AND LIGHT RIGHTtUP AND LIGHT DOWN
aUPPER HALF BLOCKaLOWER ONE EIGHTH BLOCKkQUARTER BLOCKgTHREE EIGHTHS BLOCKgHALF BLOCK
gFIVE EIGHTHS BLOCKgTHREE QUARTERS BLOCKgSEVEN EIGHTHS BLOCKaFULL BLOCKaLEFT SEVEN EIGHTHS BLOCK
fTHREE QUARTERS BLOCKfFIVE EIGHTHS BLOCKfHALF BLOCKfTHREE EIGHTHS BLOCKfONE QUARTER BLOCK
jEIGHTH BLOCKaRIGHT HALF BLOCKaLIGHT SHADEaMEDIUM SHADEaDARK SHADEaUPPER ONE EIGHTH BLOCK
aRIGHT ONE EIGHTH BLOCKaQUADRANT LOWER LEFTpRIGHTjUPPER LEFTt AND LOWER LEFT AND LOWER RIGHT
zfRIGHTyUPPER RIGHT AND LOWER LEFTzvRIGHTpRIGHTu AND LOWER LEFTzk AND LOWER RIGHTaBLACK SQUARE
aWHITE SQUAREm WITH ROUNDED CORNERSnCONTAINING BLACK SMALL SQUAREaSQUARE WITH HORIZONTAL FILL
mVERTICAL FILLmORTHOGONAL CROSSHATCH FILLmUPPER LEFT TO LOWER RIGHT FILLsRIGHT TO LOWER LEFT FILL
mDIAGONAL CROSSHATCH FILLaBLACK SMALL SQUAREaWHITE SMALL SQUAREaBLACK RECTANGLEaWHITE RECTANGLE
aBLACK VERTICAL RECTANGLEaWHITE VERTICAL RECTANGLEaBLACK PARALLELOGRAMaWHITE PARALLELOGRAM
aBLACK UP-POINTING TRIANGLEaWHITE UP-POINTING TRIANGLEaBLACK UP-POINTING SMALL TRIANGLE
aWHITE UP-POINTING SMALL TRIANGLEaBLACK RIGHT-POINTING TRIANGLEaWHITE RIGHT-POINTING TRIANGLE
aBLACK RIGHT-POINTING SMALL TRIANGLEaWHITE RIGHT-POINTING SMALL TRIANGLE
aBLACK RIGHT-POINTING POINTERaWHITE RIGHT-POINTING POINTERaBLACK DOWN-POINTING TRIANGLE
aWHITE DOWN-POINTING TRIANGLEaBLACK DOWN-POINTING SMALL TRIANGLE
aWHITE DOWN-POINTING SMALL TRIANGLEaBLACK LEFT-POINTING TRIANGLEaWHITE LEFT-POINTING TRIANGLE
aBLACK LEFT-POINTING SMALL TRIANGLEaWHITE LEFT-POINTING SMALL TRIANGLEaBLACK LEFT-POINTING POINTER
aWHITE LEFT-POINTING POINTERaBLACK DIAMONDaWHITE DIAMONDn CONTAINING BLACK SMALL DIAMONDaFISHEYE
aLOZENGEaWHITE CIRCLEaDOTTED CIRCLEaCIRCLE WITH VERTICAL FILLaBULLSEYEbLACK CIRCLE
aCIRCLE WITH LEFT HALF BLACKmRIGHT HALF BLACKmLOWER HALF BLACKmUPPER HALF BLACK
sRIGHT QUADRANT BLACKmALL BUT UPPER LEFT QUADRANT BLACKaLEFT HALF BLACK CIRCLE
aRIGHT HALF BLACK CIRCLEaINVERSE BULLETiWHITE CIRCLEaUPPER HALF INVERSE WHITE CIRCLE
aLOWER HALF INVERSE WHITE CIRCLEaUPPER LEFT QUADRANT CIRCULAR ARCgRIGHT QUADRANT CIRCULAR ARC
aLOWER RIGHT QUADRANT CIRCULAR ARCgLEFT QUADRANT CIRCULAR ARCaUPPER HALF CIRCLEaLOWER HALF CIRCLE
aBLACK LOWER RIGHT TRIANGLEmLEFT TRIANGLEgUPPER LEFT TRIANGLEmRIGHT TRIANGLEaWHITE BULLET
aSQUARE WITH LEFT HALF BLACKmRIGHT HALF BLACKmUPPER LEFT DIAGONAL HALF BLACK
mLOWER RIGHT DIAGONAL HALF BLACKaWHITE SQUARE WITH VERTICAL BISECTING LINE
gUP-POINTING TRIANGLE WITH DOTaUP-POINTING TRIANGLE WITH LEFT HALF BLACKzbRIGHT HALF BLACK
aLARGE CIRCLEaWHITE SQUARE WITH UPPER LEFT QUADRANTsLOWER LEFT QUADRANTyRIGHT QUADRANT
sUPPER RIGHT QUADRANTgCIRCLE WITH UPPER LEFT QUADRANTsLOWER LEFT QUADRANTyRIGHT QUADRANT
sUPPER RIGHT QUADRANTaUPPER LEFT TRIANGLEgRIGHT TRIANGLEaLOWER LEFT TRIANGLEaWHITE MEDIUM SQUARE
aBLACK MEDIUM SQUAREaWHITE MEDIUM SMALL SQUAREaBLACK MEDIUM SMALL SQUAREaLOWER RIGHT TRIANGLE
aBLACK SUN WITH RAYSaCLOUDaUMBRELLAaSNOWMANaCOMETaBLACK STARaWHITE STARaLIGHTNINGaTHUNDERSTORMaSUN
aASCENDING NODEaDESCENDING NODEaCONJUNCTIONaOPPOSITIONaBLACK TELEPHONEaWHITE TELEPHONEaBALLOT BOX
k WITH CHECKqXaSALTIREaUMBRELLA WITH RAIN DROPSaHOT BEVERAGEaWHITE SHOGI PIECEaBLACK SHOGI PIECE
aSHAMROCKaREVERSED ROTATED FLORAL HEART BULLETaBLACK LEFT POINTING INDEXgRIGHT POINTING INDEX
aWHITE LEFT POINTING INDEXgUP POINTING INDEXgRIGHT POINTING INDEXgDOWN POINTING INDEX
aSKULL AND CROSSBONESaCAUTION SIGNaRADIOACTIVE SIGNaBIOHAZARD SIGNaCADUCEUSaANKHaORTHODOX CROSS
aCHI RHObROSS OF LORRAINEjJERUSALEMaSTAR AND CRESCENTaFARSI SYMBOLaADI SHAKTIaHAMMER AND SICKLE
aPEACE SYMBOLaYIN YANGaTRIGRAM FOR HEAVENmLAKEmFIREmTHUNDERmWINDnATERmMOUNTAINmEARTH
aWHEEL OF DHARMAcITE FROWNING FACEgSMILING FACEaBLACK SMILING FACEaWHITE SUN WITH RAYS
aFIRST QUARTER MOONaLAST QUARTER MOONaMERCURYaFEMALE SIGNaEARTHaMALE SIGNaJUPITERaSATURNaURANUS
aNEPTUNEaPLUTOaARIESaTAURUSaGEMINIaCANCERaLEOaVIRGOaLIBRAaSCORPIUSbAGITTARIUSaCAPRICORNaAQUARIUS
aPISCESaWHITE CHESS KINGmQUEENmROOKmBISHOPmKNIGHTmPAWNaBLACK CHESS KINGmQUEENmROOKmBISHOPmKNIGHT
mPAWNgSPADE SUITaWHITE HEART SUITgDIAMOND SUITaBLACK CLUB SUITaWHITE SPADE SUITaBLACK HEART SUIT
gDIAMOND SUITaWHITE CLUB SUITaHOT SPRINGSaQUARTER NOTEaEIGHTH NOTEaBEAMED EIGHTH NOTES
hSIXTEENTH NOTESaMUSIC FLAT SIGNgNATURAL SIGNgSHARP SIGNaWEST SYRIAC CROSSaEAST SYRIAC CROSS
aUNIVERSAL RECYCLING SYMBOLaRECYCLING SYMBOL FOR TYPE-1 PLASTICSzb2 PLASTICSzb3 PLASTICS
zb4 PLASTICSzb5 PLASTICSzb6 PLASTICSzb7 PLASTICSvGENERIC MATERIALS
aBLACK UNIVERSAL RECYCLING SYMBOLaRECYCLED PAPER SYMBOLaPARTIALLY-RECYCLED PAPER SYMBOL
bERMANENT PAPER SIGNaWHEELCHAIR SYMBOLaDIE FACE-1j2j3j4j5j6aWHITE CIRCLE WITH DOT RIGHTsTWO DOTS
aBLACK CIRCLE WITH WHITE DOT RIGHTsTWO WHITE DOTSaMONOGRAM FOR YANGoINaDIGRAM FOR GREATER YANG
lLESSER YINtANGlGREATER YINaWHITE FLAGaBLACK FLAGaHAMMER AND PICKaANCHORaCROSSED SWORDS
aSTAFF OF AESCULAPIUSbCALESaALEMBICaFLOWERaGEARaSTAFF OF HERMESaATOM SYMBOLaFLEUR-DE-LIS
aOUTLINED WHITE STARaTHREE LINES CONVERGING RIGHTxLEFTaWARNING SIGNaHIGH VOLTAGE SIGN
aDOUBLED FEMALE SIGNiMALE SIGNaINTERLOCKED FEMALE AND MALE SIGNaMALE AND FEMALE SIGN
fWITH STROKE SIGNrAND MALE AND FEMALE SIGNaVERTICAL MALE WITH STROKE SIGN
aHORIZONTAL MALE WITH STROKE SIGNaMEDIUM WHITE CIRCLEhBLACK CIRCLEhSMALL WHITE CIRCLE
bARRIAGE SYMBOLaDIVORCE SYMBOLaUNMARRIED PARTNERSHIP SYMBOLaCOFFINaFUNERAL URNaNEUTERaCERESaPALLAS
aJUNOaVESTAaCHIRONaBLACK MOON LILITHaSEXTILEcMISEXTILEaQUINCUNXaSESQUIQUADRATEbOCCER BALLaBASEBALL
aSQUARED KEYaWHITE DRAUGHTS MANpKINGaBLACK DRAUGHTS MANpKINGaSNOWMAN WITHOUT SNOWbUN BEHIND CLOUD
aRAINaBLACK SNOWMANaTHUNDER CLOUD AND RAINbURNED WHITE SHOGI PIECEhBLACK SHOGI PIECE
aWHITE DIAMOND IN SQUAREaCROSSING LANESaDISABLED CARaOPHIUCHUSaPICKaCAR SLIDING
aHELMET WITH WHITE CROSSaCIRCLED CROSSING LANESbHAINSaNO ENTRYaALTERNATE ONE-WAY LEFT WAY TRAFFIC
aBLACK TWO-WAY LEFT WAY TRAFFICaWHITE TWO-WAY LEFT WAY TRAFFICaBLACK LEFT LANE MERGE
aWHITE LEFT LANE MERGEaDRIVE SLOW SIGNaHEAVY WHITE DOWN-POINTING TRIANGLEaLEFT CLOSED ENTRY
aSQUARED SALTIREaFALLING DIAGONAL IN WHITE CIRCLE IN BLACK SQUAREaBLACK TRUCK
aRESTRICTED LEFT ENTRY-1w2aASTRONOMICAL SYMBOL FOR URANUS
aHEAVY CIRCLE WITH STROKE AND TWO DOTS ABOVEaPENTAGRAMaRIGHT-HANDED INTERLACED PENTAGRAM
aLEFT-HANDED INTERLACED PENTAGRAMaINVERTED PENTAGRAMaBLACK CROSS ON SHIELDaSHINTO SHRINEaCHURCH
bASTLEaHISTORIC SITEaGEAR WITHOUT HUBj HANDLESaMAP SYMBOL FOR LIGHTHOUSEbOUNTAIN
aUMBRELLA ON GROUNDaFOUNTAINbLAG IN HOLEbERRYaSAILBOATbQUARE FOUR CORNERSbKIERaICE SKATE
aPERSON WITH BALLaTENTaJAPANESE BANK SYMBOLaHEADSTONE GRAVEYARD SYMBOLaFUEL PUMP
aCUP ON BLACK SQUAREaWHITE FLAG WITH HORIZONTAL MIDDLE BLACK STRIPEaBLACK SAFETY SCISSORS
aUPPER BLADE SCISSORSaBLACK SCISSORSaLOWER BLADE SCISSORSaWHITE SCISSORSgHEAVY CHECK MARK
aTELEPHONE LOCATION SIGNbAPE DRIVEaAIRPLANEaENVELOPEaRAISED FISThHANDaVICTORY HANDaWRITING HAND
aLOWER RIGHT PENCILaPENCILaUPPER RIGHT PENCILaWHITE NIBaBLACK NIBaCHECK MARKaHEAVY CHECK MARK
aMULTIPLICATION XaHEAVY MULTIPLICATION XaBALLOT XaHEAVY BALLOT XaOUTLINED GREEK CROSS
aHEAVY GREEK CROSSaOPEN CENTRE CROSSaHEAVY OPEN CENTRE CROSSaLATIN CROSS
aSHADOWED WHITE LATIN CROSSaOUTLINED LATIN CROSSaMALTESE CROSSaSTAR OF DAVID
aFOUR TEARDROP-SPOKED ASTERISKfBALLOON-SPOKED ASTERISKaHEAVY FOUR BALLOON-SPOKED ASTERISK
aFOUR CLUB-SPOKED ASTERISKaBLACK FOUR POINTED STARaWHITE FOUR POINTED STARaSPARKLES
bTRESS OUTLINED WHITE STARaCIRCLED WHITE STARaOPEN CENTRE BLACK STARaBLACK CENTRE WHITE STAR
aOUTLINED BLACK STARaHEAVY OUTLINED BLACK STARaPINWHEEL STARaSHADOWED WHITE STARaHEAVY ASTERISK
aOPEN CENTRE ASTERISKaEIGHT SPOKED ASTERISKgPOINTED BLACK STARoPINWHEEL STAR
aSIX POINTED BLACK STARaEIGHT POINTED RECTILINEAR BLACK STAR
aHEAVY EIGHT POINTED RECTILINEAR BLACK STARaTWELVE POINTED BLACK STARaSIXTEEN POINTED ASTERISK
aTEARDROP-SPOKED ASTERISKaOPEN CENTRE TEARDROP-SPOKED ASTERISKaHEAVY TEARDROP-SPOKED ASTERISK
aSIX PETALLED BLACK AND WHITE FLORETTEaBLACK FLORETTEaWHITE FLORETTE
aEIGHT PETALLED OUTLINED BLACK FLORETTEaCIRCLED OPEN CENTRE EIGHT POINTED STAR
aHEAVY TEARDROP-SPOKED PINWHEEL ASTERISKaSNOWFLAKEaTIGHT TRIFOLIATE SNOWFLAKE
aHEAVY CHEVRON SNOWFLAKEaSPARKLEaHEAVY SPARKLEaBALLOON-SPOKED ASTERISK
aEIGHT TEARDROP-SPOKED PROPELLER ASTERISKaHEAVY EIGHT TEARDROP-SPOKED PROPELLER ASTERISK
aCROSS MARKaSHADOWED WHITE CIRCLEaNEGATIVE SQUARED CROSS MARK
aLOWER RIGHT DROP-SHADOWED WHITE SQUAREaUPPER RIGHT DROP-SHADOWED WHITE SQUARE
aLOWER RIGHT SHADOWED WHITE SQUAREaUPPER RIGHT SHADOWED WHITE SQUAREaBLACK QUESTION MARK ORNAMENT
aWHITE QUESTION MARK ORNAMENTgEXCLAMATION MARK ORNAMENTaBLACK DIAMOND MINUS WHITE X
aHEAVY EXCLAMATION MARK SYMBOLaLIGHT VERTICAL BARaMEDIUM VERTICAL BARaHEAVY VERTICAL BAR
gSINGLE TURNED COMMA QUOTATION MARK ORNAMENTnCOMMA QUOTATION MARK ORNAMENT
gDOUBLE TURNED COMMA QUOTATION MARK ORNAMENTnCOMMA QUOTATION MARK ORNAMENT
gLOW SINGLE COMMA QUOTATION MARK ORNAMENTkDOUBLE COMMA QUOTATION MARK ORNAMENT
aCURVED STEM PARAGRAPH SIGN ORNAMENTaHEAVY EXCLAMATION MARK ORNAMENT
gHEART EXCLAMATION MARK ORNAMENTgBLACK HEARTaROTATED HEAVY BLACK HEART BULLETaFLORAL HEART
aROTATED FLORAL HEART BULLETaMEDIUM LEFT PARENTHESIS ORNAMENThRIGHT PARENTHESIS ORNAMENT
hFLATTENED LEFT PARENTHESIS ORNAMENTrRIGHT PARENTHESIS ORNAMENT
hLEFT-POINTING ANGLE BRACKET ORNAMENThRIGHT-POINTING ANGLE BRACKET ORNAMENT
aHEAVY LEFT-POINTING ANGLE QUOTATION MARK ORNAMENTgRIGHT-POINTING ANGLE QUOTATION MARK ORNAMENT
gLEFT-POINTING ANGLE BRACKET ORNAMENTgRIGHT-POINTING ANGLE BRACKET ORNAMENT
aLIGHT LEFT TORTOISE SHELL BRACKET ORNAMENTgRIGHT TORTOISE SHELL BRACKET ORNAMENT
aMEDIUM LEFT CURLY BRACKET ORNAMENThRIGHT CURLY BRACKET ORNAMENT
aDINGBAT NEGATIVE CIRCLED DIGIT ONEzgTWOzhHREEzgFOURzhIVEzgSIXzhEVENzgEIGHTzgNINEzNUMBER TEN
iCIRCLED SANS-SERIF DIGIT ONEziTWOzjHREEziFOURzjIVEziSIXzjEVENziEIGHTziNINEzcNUMBER TEN
iNEGATIVE CIRCLED SANS-SERIF DIGIT ONEzrTWOzsHREEzrFOURzsIVEzrSIXzsEVENzrEIGHTzrNINEzlNUMBER TEN
aHEAVY WIDE-HEADED RIGHTWARDS ARROWgPLUS SIGNgMINUS SIGNgDIVISION SIGNgSOUTH EAST ARROW
gRIGHTWARDS ARROWgNORTH EAST ARROWaDRAFTING POINT RIGHTWARDS ARROW
aHEAVY ROUND-TIPPED RIGHTWARDS ARROWaTRIANGLE-HEADED RIGHTWARDS ARROW
aHEAVY TRIANGLE-HEADED RIGHTWARDS ARROWaDASHED TRIANGLE-HEADED RIGHTWARDS ARROW
aHEAVY DASHED TRIANGLE-HEADED RIGHTWARDS ARROWaBLACK RIGHTWARDS ARROW
aTHREE-D TOP-LIGHTED RIGHTWARDS ARROWHEADiBOTTOM-LIGHTED RIGHTWARDS ARROWHEAD
aBLACK RIGHTWARDS ARROWHEADaHEAVY BLACK CURVED DOWNWARDS AND RIGHTWARDS ARROW
tUPWARDS AND RIGHTWARDS ARROWaSQUAT BLACK RIGHTWARDS ARROW
aHEAVY CONCAVE-POINTED BLACK RIGHTWARDS ARROWaRIGHT-SHADED WHITE RIGHTWARDS ARROW
aLEFT-SHADED WHITE RIGHTWARDS ARROWaBACK-TILTED SHADOWED WHITE RIGHTWARDS ARROW
aFRONT-TILTED SHADOWED WHITE RIGHTWARDS ARROWaHEAVY LOWER RIGHT-SHADOWED WHITE RIGHTWARDS ARROW
gUPPER RIGHT-SHADOWED WHITE RIGHTWARDS ARROWaNOTCHED LOWER RIGHT-SHADOWED WHITE RIGHTWARDS ARROW
aCURLY LOOPaNOTCHED UPPER RIGHT-SHADOWED WHITE RIGHTWARDS ARROW
aCIRCLED HEAVY WHITE RIGHTWARDS ARROWaWHITE-FEATHERED RIGHTWARDS ARROW
aBLACK-FEATHERED SOUTH EAST ARROWqRIGHTWARDS ARROWqNORTH EAST ARROW
aHEAVY BLACK-FEATHERED SOUTH EAST ARROWwRIGHTWARDS ARROWwNORTH EAST ARROW
aTEARDROP-BARBED RIGHTWARDS ARROWaHEAVY TEARDROP-SHANKED RIGHTWARDS ARROW
aWEDGE-TAILED RIGHTWARDS ARROWaHEAVY WEDGE-TAILED RIGHTWARDS ARROWaOPEN-OUTLINED RIGHTWARDS ARROW
aDOUBLE CURLY LOOPaTHREE DIMENSIONAL ANGLEaWHITE TRIANGLE CONTAINING SMALL WHITE TRIANGLE
aPERPENDICULARaOPEN SUBSEThPERSETaLEFT S-SHAPED BAG DELIMITERaRIGHT S-SHAPED BAG DELIMITER
aOR WITH DOT INSIDEaREVERSE SOLIDUS PRECEDING SUBSETaSUPERSET PRECEDING SOLIDUS
aVERTICAL BAR WITH HORIZONTAL STROKEaMATHEMATICAL RISING DIAGONALaLONG DIVISION
aMATHEMATICAL FALLING DIAGONALaSQUARED LOGICAL ANDqORaWHITE DIAMOND WITH CENTRED DOTaAND WITH DOT
aELEMENT OF OPENING UPWARDSaLOWER RIGHT CORNER WITH DOTaUPPER LEFT CORNER WITH DOTaLEFT OUTER JOIN
aRIGHT OUTER JOINaFULL OUTER JOINaLARGE UP TACKgDOWN TACKbEFT AND RIGHT DOUBLE TURNSTILEpTACK
fMULTIMAPbONG RIGHT TACKfLEFT TACKaUP TACK WITH CIRCLE ABOVEaLOZENGE DIVIDED BY HORIZONTAL RULE
aWHITE CONCAVE-SIDED DIAMONDzc WITH LEFTWARDS TICKziRIGHTWARDS TICKgSQUARE WITH LEFTWARDS TICK
sRIGHTWARDS TICKaMATHEMATICAL LEFT WHITE SQUARE BRACKETnRIGHT WHITE SQUARE BRACKET
nLEFT ANGLE BRACKETnRIGHT ANGLE BRACKETnLEFT DOUBLE ANGLE BRACKETnRIGHT DOUBLE ANGLE BRACKET
nLEFT WHITE TORTOISE SHELL BRACKETnRIGHT WHITE TORTOISE SHELL BRACKETnLEFT FLATTENED PARENTHESIS
nRIGHT FLATTENED PARENTHESISaUPWARDS QUADRUPLE ARROWaDOWNWARDS QUADRUPLE ARROW
aANTICLOCKWISE GAPPED CIRCLE ARROWaCLOCKWISE GAPPED CIRCLE ARROWaRIGHT ARROW WITH CIRCLED PLUS
aLONG LEFTWARDS ARROWfRIGHTWARDS ARROWfLEFT RIGHT ARROWjWARDS DOUBLE ARROWfRIGHTWARDS DOUBLE ARROW
fLEFT RIGHT DOUBLE ARROWjWARDS ARROW FROM BARfRIGHTWARDS ARROW FROM BAR
fLEFTWARDS DOUBLE ARROW FROM BARfRIGHTWARDS DOUBLE ARROW FROM BARqSQUIGGLE ARROW"

end Name
end Text
end WorkflowKit
