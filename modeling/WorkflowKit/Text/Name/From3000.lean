/-
# Names of characters from U+3000 to U+EFFF

The names are written as `WorkflowKit.Text.Name` says.
-/

namespace WorkflowKit
namespace Text
namespace Name

/-- The names of the characters from U+3000 to U+EFFF. -/
def namesFrom3000 : String := "
<3000>aIDEOGRAPHIC SPACEmCOMMAmFULL STOPaDITTO MARKaJAPANESE INDUSTRIAL STANDARD SYMBOL
aIDEOGRAPHIC ITERATION MARKmCLOSING MARKmNUMBER ZEROaLEFT ANGLE BRACKETaRIGHT ANGLE BRACKET
aLEFT DOUBLE ANGLE BRACKETaRIGHT DOUBLE ANGLE BRACKETaLEFT CORNER BRACKETaRIGHT CORNER BRACKET
aLEFT WHITE CORNER BRACKETaRIGHT WHITE CORNER BRACKETaLEFT BLACK LENTICULAR BRACKET
aRIGHT BLACK LENTICULAR BRACKETaPOSTAL MARKaGETA MARKaLEFT TORTOISE SHELL BRACKET
aRIGHT TORTOISE SHELL BRACKETaLEFT WHITE LENTICULAR BRACKETaRIGHT WHITE LENTICULAR BRACKET
aLEFT WHITE TORTOISE SHELL BRACKETaRIGHT WHITE TORTOISE SHELL BRACKETaLEFT WHITE SQUARE BRACKET
aRIGHT WHITE SQUARE BRACKETaWAVE DASHaREVERSED DOUBLE PRIME QUOTATION MARK
aDOUBLE PRIME QUOTATION MARKaLOW DOUBLE PRIME QUOTATION MARKaPOSTAL MARK FACEaHANGZHOU NUMERAL ONE
rTWOsHREErFOURsIVErSIXsEVENrEIGHTrNINEaIDEOGRAPHIC LEVEL TONE MARKmRISING TONE MARK
mDEPARTING TONE MARKmENTERING TONE MARKaHANGUL SINGLE DOT TONE MARKhDOUBLE DOT TONE MARKaWAVY DASH
aVERTICAL KANA REPEAT MARKvWITH VOICED SOUND MARKvMARK UPPER HALF
vWITH VOICED SOUND MARK UPPER HALFvMARK LOWER HALFaCIRCLED POSTAL MARK
aIDEOGRAPHIC TELEGRAPH LINE FEED SEPARATOR SYMBOLaHANGZHOU NUMERAL TENsWENTYsHIRTY
aVERTICAL IDEOGRAPHIC ITERATION MARKaMASU MARKaPART ALTERNATION MARK
aIDEOGRAPHIC VARIATION INDICATORmHALF FILL SPACE<3041>aHIRAGANA LETTER SMALL AqAqSMALL IqIqSMALL U
qUqSMALL EqEqSMALL OqOqKAqGAqKIqGIqKUqGUqKEqGEqKOqGOqSAqZAqSIqZIqSUqZUqSEqZEqSOqZOqTAqDAqTIqDI
qSMALL TUqTUqDUqTEqDEqTOqDOqNArIrUrErOqHAqBAqPAqHIqBIqPIqHUqBUqPUqHEqBEqPEqHOqBOqPOqMArIrUrErO
qSMALL YAqYAqSMALL YUqYUqSMALL YOqYOqRArIrUrErOqSMALL WAqWArIrErOqNqVUqSMALL KAxE
<3099>aCOMBINING KATAKANA-HIRAGANA VOICED SOUND MARKzdSEMI-VOICED SOUND MARK
aKATAKANA-HIRAGANA VOICED SOUND MARKsSEMI-VOICED SOUND MARKaHIRAGANA ITERATION MARK
jVOICED ITERATION MARKjDIGRAPH YORIaKATAKANA-HIRAGANA DOUBLE HYPHENi LETTER SMALL AqAqSMALL IqI
qSMALL UqUqSMALL EqEqSMALL OqOqKAqGAqKIqGIqKUqGUqKEqGEqKOqGOqSAqZAqSIqZIqSUqZUqSEqZEqSOqZOqTAqDA
qTIqDIqSMALL TUqTUqDUqTEqDEqTOqDOqNArIrUrErOqHAqBAqPAqHIqBIqPIqHUqBUqPUqHEqBEqPEqHOqBOqPOqMArIrUrE
rOqSMALL YAqYAqSMALL YUqYUqSMALL YOqYOqRArIrUrErOqSMALL WAqWArIrErOqNqVUqSMALL KAxEqVArIrErO
jMIDDLE DOTi-HIRAGANA PROLONGED SOUND MARKi ITERATION MARKjVOICED ITERATION MARKjDIGRAPH KOTO
<3105>aBOPOMOFO LETTER BqPqMqFqDqTqNqLqGqKqHqJqQqXqZHqCHqSHqRqZqCqSqAqOqErHqAIqEIqAUqOUqANqENqANG
qENGrRqIqUqIUqVqNGqGNqIHqO WITH DOT ABOVEqNN<3131>aHANGUL LETTER KIYEOKoSSANGKIYEOKoKIYEOK-SIOS
oNIEUNt-CIEUCuHIEUHoTIKEUToSSANGTIKEUToRIEULt-KIYEOKuMIEUMuPIEUPuSIOSuTHIEUTHuPHIEUPHuHIEUHoMIEUM
oPIEUPoSSANGPIEUPoPIEUP-SIOSoSIOSpSANGSIOSoIEUNGoCIEUCoSSANGCIEUCoCHIEUCHoKHIEUKHoTHIEUTHoPHIEUPH
oHIEUHoApEoYAqEoEOoEoYEOpEoOoWAqEoOEoYOoUoWEOpEpIoYUoEUoYIoIhFILLERhLETTER SSANGNIEUNoNIEUN-TIKEUT
uSIOSuPANSIOSoRIEUL-KIYEOK-SIOSuTIKEUTuPIEUP-SIOSvANSIOSuYEORINHIEUHoMIEUM-PIEUPuSIOSuPANSIOS
oKAPYEOUNMIEUMoPIEUP-KIYEOKuTIKEUTuSIOS-KIYEOKzTIKEUTuCIEUCuTHIEUTHoKAPYEOUNPIEUPwSSANGPIEUP
oSIOS-KIYEOKtNIEUNtTIKEUTtPIEUPtCIEUCoPANSIOSoSSANGIEUNGoYESIEUNGw-SIOSxPANSIOSoKAPYEOUNPHIEUPH
oSSANGHIEUHoYEORINHIEUHpO-YAtErIpU-YEOsErIoARAEAtE<3190>aIDEOGRAPHIC ANNOTATION LINKING MARK
xREVERSE MARKxONE MARKxTWO MARKyHREE MARKxFOUR MARKxTOP MARKxMIDDLE MARKxBOTTOM MARKxFIRST MARK
xSECOND MARKxTHIRD MARKxFOURTH MARKxHEAVEN MARKxEARTH MARKxMAN MARKaBOPOMOFO LETTER BUqZIqJIqGUqEE
rNNqOOrNNqIRqANNqINNqUNNqIMqNGGqAINNrUNNrMqOMrNGqINNNjFINAL LETTER PwTwKwHjLETTER GHqLHqZY
jFINAL LETTER GjLETTER GWqKWqOEqAHaCJK STROKE TlWGlXGlBXGlSWlHZZnGmPmZWGlSZWGlHZTnZPmPWGmZWnZZlNlH
lSlPlSPlDlHZmGlSZmWZmTmGlPDmZlTNlSZZmWGlHXWGmZZZGlPGlQ<31F0>aKATAKANA LETTER SMALL KUwSIxUwTOwNU
wHAxIxUxExOwMUwRAxIxUxExOaPARENTHESIZED HANGUL KIYEOKvNIEUNvTIKEUTvRIEULvMIEUMvPIEUPvSIOSvIEUNG
vCIEUCwHIEUCHvKHIEUKHvTHIEUTHvPHIEUPHvHIEUHvKIYEOK AvNIEUN AvTIKEUT AvRIEUL AvMIEUM AvPIEUP A
vSIOS AvIEUNG AvCIEUC AwHIEUCH AvKHIEUKH AvTHIEUTH AvPHIEUPH AvHIEUH AvCIEUC U
oKOREAN CHARACTER OJEONzh HU<3220>oIDEOGRAPH ONEyTWOzHREEyFOURzIVEySIXzEVENyEIGHTyNINEyTENyMOON
yFIREyWATERzOODyMETALyEARTHySUNzTOCKyHAVEySOCIETYyNAMEySPECIALyFINANCIALyCONGRATULATIONyLABOR
yREPRESENTyCALLySTUDYzUPERVISEyENTERPRISEyRESOURCEyALLIANCEyFESTIVALyRESTySELFyREACH
aCIRCLED IDEOGRAPH QUESTIONsKINDERGARTENsSCHOOLsKOTOiNUMBER TEN ON BLACK SQUARE
qWENTY ON BLACK SQUAREqHIRTY ON BLACK SQUAREpFORTY ON BLACK SQUAREqIFTY ON BLACK SQUARE
pSIXTY ON BLACK SQUAREqEVENTY ON BLACK SQUAREpEIGHTY ON BLACK SQUAREaPARTNERSHIP SIGN
aCIRCLED NUMBER TWENTY ONEwTWOxHREEwFOURxIVEwSIXxEVENwEIGHTwNINEqHIRTYv ONEwTWOxHREEwFOURxIVE
iHANGUL KIYEOKpNIEUNpTIKEUTpRIEULpMIEUMpPIEUPpSIOSpIEUNGpCIEUCqHIEUCHpKHIEUKHpTHIEUTHpPHIEUPH
pHIEUHpKIYEOK ApNIEUN ApTIKEUT ApRIEUL ApMIEUM ApPIEUP ApSIOS ApIEUNG ApCIEUC AqHIEUCH ApKHIEUKH A
pTHIEUTH ApPHIEUPH ApHIEUH AiKOREAN CHARACTER CHAMKOzJUEUIiHANGUL IEUNG UaKOREAN STANDARD SYMBOL
aCIRCLED IDEOGRAPH ONEsTWOtHREEsFOURtIVEsSIXtEVENsEIGHTsNINEsTENsMOONsFIREsWATERtOODsMETALsEARTH
sSUNtTOCKsHAVEsSOCIETYsNAMEsSPECIALsFINANCIALsCONGRATULATIONsLABORsSECRETsMALEsFEMALEsSUITABLE
sEXCELLENTsPRINTsATTENTIONsITEMsRESTsCOPYuRRECTsHIGHsCENTREsLOWtEFTsRIGHTsMEDICINEsRELIGIONsSTUDY
tUPERVISEsENTERPRISEsRESOURCEsALLIANCEsNIGHTiNUMBER THIRTY SIXxEVENwEIGHTwNINEpFORTYu ONEvTWOwHREE
vFOURwIVEvSIXwEVENvEIGHTvNINEqIFTYaIDEOGRAPHIC TELEGRAPH SYMBOL FOR JANUARYziFEBRUARYziMARCH
ziAPRILziMAYziJUNEzkLYziAUGUSTziSEPTEMBERziOCTOBERziNOVEMBERziDECEMBERaSQUARE HGhERGiV
aLIMITED LIABILITY SIGNaCIRCLED KATAKANA ArIrUrErOrKAsIsUsEsOrSAsIsUsEsOrTAsIsUsEsOrNAsIsUsEsOrHA
sIsUsEsOrMAsIsUsEsOrYAsUsOrRAsIsUsEsOrWAsIsEsOaSQUARE ERA NAME REIWAhAPAATOiRUHUAiNPEAiARUhININGU
jTIhUONhESUKUUDOiEKAAhONSUiOMUhKAIRIjRATTOkORIIhGARONjNMAiIGAjNIIhKYURIIhGIRUDAAhKIROlGURAMU
lMEETORUlWATTOhGURAMUnTONhKURUZEIROkOONEiEESUiORUNAjOPOhSAIKURUjNTIIMUiIRINGUiENTIlOhDAASUiESIiORU
hTONhNANOiOTTOhHAITUhPAASENTOkTUhBAARERUhPIASUTORUjKURUkOhBIRUhHUARADDOjIITOhBUSSYERUhHURAN
iEKUTAARUhPESOjNIHIhHERUTUhPENSUjEZIhBEETAhPOINTOhBORUTOhHONhPONDOhHOORUkNhMAIKUROkRUjHHAjRUKU
jNSYONiIKURONjRIlBAARUiEGAlTONjETORUhYAADOkRUiUANhRITTORUjRAiUPIIjUBURUiEMUjNTOGENhWATTO
aIDEOGRAPHIC TELEGRAPH SYMBOL FOR HOUR ZEROznONEznTWOzoHREEznFOURzoIVEznSIXzoEVENznEIGHTznNINE
znTENznELEVENznTWELVEzoHIRTEENznFOURTEENzoIFTEENznSIXTEENzoEVENTEENznEIGHTEENznNINETEENznTWENTY
zt-ONEzuTWOzvHREEzuFOURaSQUARE HPAhDAhAUhBARhOVhPChDMj SQUAREDkCUBEDhIUhERA NAME HEISEIqSYOUWA
qTAISYOUqMEIZIhCORPORATIONhPA AMPShNAhMU AiAhKAiBhMBhGBhCALhKCALhPFhNFhMU FkGiGhKGhHZhKHZhMHZhGHZ
hTHZhMU LiLhDLhKLhFMhNMhMU MiMhCMhKMhMM SQUAREDhCM SQUAREDhM SQUAREDhKM SQUAREDhMM CUBEDhCM CUBED
hM CUBEDhKM CUBEDhM OVER Sp SQUAREDhPAhKPAhMPAhGPAhRADk OVER Sr SQUAREDhPShNShMU SiShPVhNVhMU ViV
hKVhMV MEGAhPWhNWhMU WiWhKWhMW MEGAhK OHMhM OHMhAMhBQhCCiDi OVER KGiOhDBhGYhHAiPhINhKKiM CAPITALiT
hLMiNiOGiXhMB SMALLiILiOLhPHiMiPMiRhSRiVhWBhV OVER MhA OVER M
aIDEOGRAPHIC TELEGRAPH SYMBOL FOR DAY ONEzmTWOznHREEzmFOURznIVEzmSIXznEVENzmEIGHTzmNINEzmTEN
zmELEVENzmTWELVEznHIRTEENzmFOURTEENznIFTEENzmSIXTEENznEVENTEENzmEIGHTEENzmNINETEENzmTWENTYzs-ONE
ztTWOzuHREEztFOURzuIVEztSIXzuEVENztEIGHTztNINEznHIRTYzs-ONEaSQUARE GAL
<4DC0>aHEXAGRAM FOR THE CREATIVE HEAVENrRECEPTIVE EARTHnDIFFICULTY AT THE BEGINNINGnYOUTHFUL FOLLY
nWAITINGnCONFLICTnTHE ARMYnHOLDING TOGETHERnSMALL TAMINGnTREADINGnPEACEnSTANDSTILLnFELLOWSHIP
nGREAT POSSESSIONnMODESTYnENTHUSIASMnFOLLOWINGnWORK ON THE DECAYEDnAPPROACHnCONTEMPLATION
nBITING THROUGHnGRACEnSPLITTING APARTnRETURNnINNOCENCEnGREAT TAMINGnMOUTH CORNERS
nGREAT PREPONDERANCEnTHE ABYSMAL WATERrCLINGING FIREnINFLUENCEnDURATIONnRETREATnGREAT POWER
nPROGRESSnDARKENING OF THE LIGHTnTHE FAMILYnOPPOSITIONoBSTRUCTIONnDELIVERANCEpCREASEnINCREASE
nBREAKTHROUGHnCOMING TO MEETnGATHERING TOGETHERnPUSHING UPWARDnOPPRESSIONnTHE WELLnREVOLUTION
nTHE CAULDRONrAROUSING THUNDERrKEEPING STILL MOUNTAINnDEVELOPMENTnTHE MARRYING MAIDENnABUNDANCE
nTHE WANDERERrGENTLE WINDrJOYOUS LAKEnDISPERSIONnLIMITATIONnINNER TRUTHnSMALL PREPONDERANCE
nAFTER COMPLETIONnBEFORE COMPLETION<A000>aYI SYLLABLE ITnXmInPnEToXnEoPmATnXmAnPmUOXnOoPmOTnXmOnP
mEXmEmWUmBIToXnIoPoETpXoEpPnAToXnAoPnUOXoOpPnOToXnOoPnEXnEoPnUToXnUoPoRXoRnYToXnYoPoRXoRmPIToXnIoP
oEXoEpPnAToXnAoPnUOXoOpPnOToXnOoPnUToXnUoPoRXoRnYToXnYoPoRXoRmBBITpXoIpPpETqXpEqPoATpXoApPoUOXpOqP
oOTpXoOpPoEXoEpPoUTpXoUpPpRXpRoYTpXoYpPmNBITpXoIpPpEXpEqPoATpXoApPoOTpXoOpPoUTpXoUpPpRXpRoYTpXoYpP
pRXpRmHMITpXoIpPpEXpEqPoATpXoApPoUOXpOqPoOTpXoOpPoUTpXoUpPpRXpRoYXoYpPpRXpRmMIToXnIoPoEXoEpPnAToX
nAoPnUOTpXoOpPnOToXnOoPnEXnEnUToXnUoPoRXoRnYToXnYoPmFIToXnIoPnAToXnAoPnOXnOoPnUToXnUoPoRXoRnYToXnY
oPmVIToXnIoPoETpXoEpPnAToXnAoPnOToXnOoPnEXoPnUToXnUoPoRXoRnYToXnYoPoRXoRmDIToXnIoPoEXoEpPnAToXnAoP
nUOXoOnOToXnOoPnEXnEoPnUToXnUoPoRXoRmTIToXnIoPoEXoEpPnAToXnAoPnUOTpXoOpPnOToXnOoPnEXnEoPnUToXnUoP
oRXoRmDDITpXoIpPpEXpEqPoATpXoApPoUOXpOqPoOTpXoOpPoEXoEpPoUTpXoUpPpRXpRmNDITpXoIpPpEXpEoATpXoApPoOT
pXoOpPoEXoEpPoUTpXoUpPpRXpRmHNITpXoIpPpETqXpEqPoATpXoApPoUOXpOoOTpXpPoEXoEpPoUTmNIToXnIoPoEXoEpP
nAXnAoPnUOXoOpPnOToXnOoPnEXnEoPnUToXnUoPoRXoRmHLITpXoIpPpEXpEqPoATpXoApPoUOXpOqPoOXoOpPoEXoEpPoUT
pXoUpPpRXpRoYTpXoYpPpRXpRmLIToXnIoPoETpXoEpPnAToXnAoPnUOTpXoOpPnOToXnOoPnEXnEoPnUToXnUoPoRXoRnYToX
nYoPoRXoRmGIToXnIoPoETpXoEpPnAToXnAoPnUOTpXoOpPnOToXnOoPnEToXnEoPnUToXnUoPoRXoRmKIToXnIoPoEXoEpP
nAToXnAoPnUOXoOpPnOToXnOoPnEToXnEoPnUToXnUoPoRXoRmGGITpXoIpEXpEqPoATpXoApPoUOTqXpOqPoOTpXoOpPoETpX
oEpPoUTpXoUpPpRXpRmMGIEXpEoATpXoApPoUOXpOqPoOTpXoOpPoEXoEpPoUTpXoUpPpRXpRmHXITpXoIpPpETqXpEqPoATpX
oApPoUOTqXpOqPoOTpXoOpPoEXoEpPmNGIEXpEqPoATpXoApPoUOTqXpOoOTpXoOpPoEXoEpPmHIToEXoEnAToXnAoPnUOTpX
oOpPnOToXnOoPnEXnEoPmWAToXnAoPnUOXoOpPnOXnOoPnEXnEoPmZIToXnIoPoEXoEpPnAToXnAoPnUOXoOpPnOToXnOoPnEX
nEoPnUToXnUoPoRXoRnYToXnYoPoRXoRmCIToXnIoPoETpXoEpPnAToXnAoPnUOXoOpPnOToXnOoPnEXnEoPnUToXnUoPoRXoR
nYToXnYoPoRXoRmZZITpXoIpPpETqXpEqPoATpXoApPoOXoOpPoEXoEpPoUXoUpPpRXpRoYTpXoYpPpRXpRmNZITpXoIpPpEX
pEqPoATpXoApPoUOXpOoOXpPoEXoEoUXoUpPpRXpRoYTpXoYpPpRXpRmSIToXnIoPoEXoEpPnAToXnAoPnUOXoOpPnOToXnOoP
nEXnEoPnUToXnUoPoRXoRnYToXnYoPoRXoRnSITpXoIpPpEXpEqPoATpXoApPoOTpXoOpPoEXoEpPoUTpXoUpPoYTpXoYpPpRX
pRmZHATpXoApPoUOXpOqPoOTpXoOpPoETpXoEpPoUTpXoUpPpRXpRoYTpXoYpPpRXpRmCHATpXoApPoUOTqXpOqPoOTpXoOpP
oETpXoEpPoUXoUpPpRXpRoYTpXoYpPpRXpRmRRAXoAoUOXpOoOTpXoOpPoETpXoEpPoUTpXoUpPpRXpRoYTpXoYpPpRXpR
mNRATpXoApPoOXoOpPoETpXoEpPoUTpXoUpPpRXpRoYTpXoYpPpRXpRmSHATpXoApPoUOXpOqPoOTpXoOpPoETpXoEpPoUTpX
oUpPpRXpRoYTpXoYpPpRXpRmRAToXnAoPnUOXoOpPnOToXnOoPnEXnEoPnUToXnUoPoRXoRnYToXnYoPoRXoRmJIToXnIoPoET
pXoEpPnUOTpXoOpPnOToXnOoPnUToXnUoPoRXoRnYToXnYoPoRXoRmQIToXnIoPoETpXoEpPnUOTpXoOpPnOToXnOoPnUToXnU
oPoRXoRnYToXnYoPoRXoRmJJITpXoIpPpETqXpEqPoUOXpOqPoOTpXoOpPoUTpXoUpPpRXpRoYTpXoYpPmNJITpXoIpPpETqX
pEqPoUOXpOoOTpXoOpPoUXoUpPpRXpRoYTpXoYpPpRXpRnYITpXoIpPpETqXpEqPoUOXpOqPoOTpXoOpPoUTpXoUpPmXIToXnI
oPoETpXoEpPnUOXoOnOToXnOoPnYToXnYoPoRXoRmYIToXnIoPoETpXoEpPnUOTpXoOpPnOToXnOoPnUToXnUoPoRXoRnYToX
nYoPoRXoR<A490>dRADICAL QOTlLIlKITlNYIPlCYPlSSIlGGOPmEPlMIlHXITlLYRlBBUTlMOPlYOlPUTlHXUOlTATlGA
lZUPlCYTlDDURlBURlGGUOlNYOPlTUlOPlJJUTlZOTlPYTlHMOlYITlVURlSHYlVEPlZAlJOlNZUPlJJYlGOTlJJIElWOlDU
lSHURlLIElCYmUOPmIPlHXOPlSHATlZURlSHOPlCHElZZIETlNBIElKE<A4D0>aLISU LETTER BAmPAnHAmDAmTAnHAmGAmKA
nHAmJAmCAnHAmDZAmTSAoHAmMAmNAmLAmSAmZHAnAmNGAmHAmXAmHHAmFAmWAmSHAmYAmGHAmAnEmEnUmImOmUnEnHmOE
mTONE MYA TIrNA POrMYA CYAvBOvNAvJEUfPUNCTUATION COMMArFULL STOPaVAI SYLLABLE EEpNnHEEnWEEqNnPEE
nBHEEoEEnMBEEnKPEEnMGBEEnGBEEnFEEnVEEnTEEoHEEnDHEEpHEEnLEEnREEnDEEnNDEEnSEEoHEEnZEEoHEEnCEEnJEE
nNJEEnYEEnKEEnNGGEEnGEEnMEEnNEEoYEEnIoNnHIpNnWIpNnPInBHIoInMBInKPInMGBInGBInFInVInTIoHInDHIpHInLI
nRInDInNDInSIoHInZIoHInCInJInNJInYInKInNGGInGInMInNIoYInAoNnNGANnHApNnWApNnPAnBHAoAnMBAnKPAqNnMGBA
nGBAnFAnVAnTAoHAnDHApHAnLAnRAnDAnNDAnSAoHAnZAoHAnCAnJAnNJAnYAnKApNnNGGAnGAnMAnNAoYAnOOpNnHOOnWOOqN
nPOOnBHOOoOOnMBOOnKPOOnMGBOOnGBOOnFOOnVOOnTOOoHOOnDHOOpHOOnLOOnROOnDOOnNDOOnSOOoHOOnZOOoHOOnCOO
nJOOnNJOOnYOOnKOOnNGGOOnGOOnMOOnNOOoYOOnUoNnHUpNnWUpNnPUnBHUoUnMBUnKPUnMGBUnGBUnFUnVUnTUoHUnDHUpHU
nLUnRUnDUnNDUnSUoHUnZUoHUnCUnJUnNJUnYUnKUnNGGUnGUnMUnNUoYUnOoNnNGONnHOpNnWOpNnPOnBHOoOnMBOnKPO
nMGBOnGBOqNnFOnVOnTOoHOnDHOpHOnLOnROnDOnNDOnSOoHOnZOoHOnCOnJOnNJOnYOnKOnNGGOnGOnMOnNOoYOnEoNnNGEN
nHEpNnWEpNnPEnBHEoEnMBEnKPEqNnMGBEnGBEqNnFEnVEnTEoHEnDHEpHEnLEnREnDEnNDEnSEoHEnZEoHEnCEnJEnNJEnYE
nKEnNGGErNnGEpNnMEnNEoYEoGnLENGTHENEReCOMMAeFULL STOPeQUESTION MARKeSYLLABLE NDOLE FAtKAtSOO
gMBOL FEENGlKEENGlTINGlNIIlBANGlFAAlTAAlDANGmOONGlKUNGlTONGlDO-OlJONGeDIGIT ZEROkONEkTWOlHREEkFOUR
lIVEkSIXlEVENkEIGHTkNINEeSYLLABLE NDOLE MAtDO<A640>aCYRILLIC CAPITAL LETTER ZEMLYA
jSMALL LETTER ZEMLYAjCAPITAL LETTER DZELOjSMALL LETTER DZELOjCAPITAL LETTER REVERSED DZE
jSMALL LETTER REVERSED DZEjCAPITAL LETTER IOTAjSMALL LETTER IOTAjCAPITAL LETTER DJERV
jSMALL LETTER DJERVjCAPITAL LETTER MONOGRAPH UKjSMALL LETTER MONOGRAPH UK
jCAPITAL LETTER BROAD OMEGAjSMALL LETTER BROAD OMEGAjCAPITAL LETTER NEUTRAL YER
jSMALL LETTER NEUTRAL YERjCAPITAL LETTER YERU WITH BACK YERjSMALL LETTER YERU WITH BACK YER
jCAPITAL LETTER IOTIFIED YATjSMALL LETTER IOTIFIED YATjCAPITAL LETTER REVERSED YU
jSMALL LETTER REVERSED YUjCAPITAL LETTER IOTIFIED AjSMALL LETTER IOTIFIED A
jCAPITAL LETTER CLOSED LITTLE YUSjSMALL LETTER CLOSED LITTLE YUSjCAPITAL LETTER BLENDED YUS
jSMALL LETTER BLENDED YUSjCAPITAL LETTER IOTIFIED CLOSED LITTLE YUS
jSMALL LETTER IOTIFIED CLOSED LITTLE YUSjCAPITAL LETTER YNjSMALL LETTER YN
jCAPITAL LETTER REVERSED TSEjSMALL LETTER REVERSED TSEjCAPITAL LETTER SOFT DEjSMALL LETTER SOFT DE
jCAPITAL LETTER SOFT ELjSMALL LETTER SOFT ELjCAPITAL LETTER SOFT EMjSMALL LETTER SOFT EM
jCAPITAL LETTER MONOCULAR OjSMALL LETTER MONOCULAR OjCAPITAL LETTER BINOCULAR O
jSMALL LETTER BINOCULAR OjCAPITAL LETTER DOUBLE MONOCULAR OjSMALL LETTER DOUBLE MONOCULAR O
jLETTER MULTIOCULAR ObOMBINING CYRILLIC VZMETtTEN MILLIONS SIGNtHUNDRED MILLIONS SIGN
tTHOUSAND MILLIONS SIGNaSLAVONIC ASTERISKaCOMBINING CYRILLIC LETTER UKRAINIAN IEzbIzbYIzbU
zbHARD SIGNzbYERUzbSOFT SIGNzbOMEGAtKAVYKAtPAYEROKbYRILLIC KAVYKAjPAYEROKjCAPITAL LETTER DWE
jSMALL LETTER DWEjCAPITAL LETTER DZWEjSMALL LETTER DZWEjCAPITAL LETTER ZHWEjSMALL LETTER ZHWE
jCAPITAL LETTER CCHEjSMALL LETTER CCHEjCAPITAL LETTER DZZEjSMALL LETTER DZZE
jCAPITAL LETTER TE WITH MIDDLE HOOKjSMALL LETTER TE WITH MIDDLE HOOKjCAPITAL LETTER TWE
jSMALL LETTER TWEjCAPITAL LETTER TSWEjSMALL LETTER TSWEjCAPITAL LETTER TSSEjSMALL LETTER TSSE
jCAPITAL LETTER TCHEjSMALL LETTER TCHEjCAPITAL LETTER HWEjSMALL LETTER HWEjCAPITAL LETTER SHWE
jSMALL LETTER SHWEjCAPITAL LETTER DOUBLE OjSMALL LETTER DOUBLE OjCAPITAL LETTER CROSSED O
jSMALL LETTER CROSSED OaMODIFIER LETTER CYRILLIC HARD SIGNzSOFT SIGNaCOMBINING CYRILLIC LETTER EF
zbIOTIFIED EaBAMUM LETTER AnKAnUnKUnEEnREEnTAEnOnNYInInLAnPAnRIIpEEnLEEEEnMEEEEnTAAnNDAAoJAEMnM
nSUUnMUnSHIIoIoHEUXoEUXnKYEEoETnNUAEoUoJUAEnYOQnSHUnYUQoAnNSHAnKEUXnPEUXnNJEEoTEEnPUEnWUEnPEEnFEE
nRUnLUnMInNInREUXoAEnKENnNGKWAENpGApAnSHOnPUAEnFUoOMnWAnNAnLInPInLOQnKOnMBENnRENnMENoAnTInKInMO
oBAAnTETnKPAnTENnNTUUnSAMBAnFAAMAEnKOVUUpGHOMgCOMBINING MARK KOQNDONvTUKWENTISgNJAEMLIgFULL STOP
gCOLONiMMAgSEMICOLONgQUESTION MARK<A700>aMODIFIER LETTER CHINESE TONE YIN PINGzfANG PINGzfIN SHANG
zfANG SHANGzfIN QUzfANG QUzfIN RUzfANG RUqEXTRA-HIGH DOTTED TONE BARqHIGH DOTTED TONE BAR
qMID DOTTED TONE BARqLOW DOTTED TONE BARqEXTRA-LOW DOTTED TONE BARwHIGH DOTTED LEFT-STEM TONE BAR
qHIGH DOTTED LEFT-STEM TONE BARqMID DOTTED LEFT-STEM TONE BARqLOW DOTTED LEFT-STEM TONE BAR
qEXTRA-LOW DOTTED LEFT-STEM TONE BARwHIGH LEFT-STEM TONE BARqHIGH LEFT-STEM TONE BAR
qMID LEFT-STEM TONE BARqLOW LEFT-STEM TONE BARqEXTRA-LOW LEFT-STEM TONE BARqDOT VERTICAL BARuSLASH
uHORIZONTAL BARqLOWER RIGHT CORNER ANGLEqRAISED UP ARROWxDOWN ARROWxEXCLAMATION MARK
xINVERTED EXCLAMATION MARKqLOW INVERTED EXCLAMATION MARKqSTRESS AND HIGH TONEzcLOW TONE
aLATIN CAPITAL LETTER EGYPTOLOGICAL ALEFgSMALL LETTER EGYPTOLOGICAL ALEF
gCAPITAL LETTER EGYPTOLOGICAL AINgSMALL LETTER EGYPTOLOGICAL AINgCAPITAL LETTER HENG
gSMALL LETTER HENGgCAPITAL LETTER TZgSMALL LETTER TZgCAPITAL LETTER TRESILLOgSMALL LETTER TRESILLO
gCAPITAL LETTER CUATRILLOgSMALL LETTER CUATRILLOgCAPITAL LETTER CUATRILLO WITH COMMA
gSMALL LETTER CUATRILLO WITH COMMAgLETTER SMALL CAPITAL FzcSgCAPITAL LETTER AAgSMALL LETTER AA
gCAPITAL LETTER AOgSMALL LETTER AOgCAPITAL LETTER AUgSMALL LETTER AUgCAPITAL LETTER AV
gSMALL LETTER AVgCAPITAL LETTER AV WITH HORIZONTAL BARgSMALL LETTER AV WITH HORIZONTAL BAR
gCAPITAL LETTER AYgSMALL LETTER AYgCAPITAL LETTER REVERSED C WITH DOT
gSMALL LETTER REVERSED C WITH DOTgCAPITAL LETTER K WITH STROKEgSMALL LETTER K WITH STROKE
gCAPITAL LETTER K WITH DIAGONAL STROKEgSMALL LETTER K WITH DIAGONAL STROKE
gCAPITAL LETTER K WITH STROKE AND DIAGONAL STROKEgSMALL LETTER K WITH STROKE AND DIAGONAL STROKE
gCAPITAL LETTER BROKEN LgSMALL LETTER BROKEN LgCAPITAL LETTER L WITH HIGH STROKE
gSMALL LETTER L WITH HIGH STROKEgCAPITAL LETTER O WITH LONG STROKE OVERLAY
gSMALL LETTER O WITH LONG STROKE OVERLAYgCAPITAL LETTER O WITH LOOPgSMALL LETTER O WITH LOOP
gCAPITAL LETTER OOgSMALL LETTER OOgCAPITAL LETTER P WITH STROKE THROUGH DESCENDER
gSMALL LETTER P WITH STROKE THROUGH DESCENDERgCAPITAL LETTER P WITH FLOURISH
gSMALL LETTER P WITH FLOURISHgCAPITAL LETTER P WITH SQUIRREL TAIL
gSMALL LETTER P WITH SQUIRREL TAILgCAPITAL LETTER Q WITH STROKE THROUGH DESCENDER
gSMALL LETTER Q WITH STROKE THROUGH DESCENDERgCAPITAL LETTER Q WITH DIAGONAL STROKE
gSMALL LETTER Q WITH DIAGONAL STROKEgCAPITAL LETTER R ROTUNDAgSMALL LETTER R ROTUNDA
gCAPITAL LETTER RUM ROTUNDAgSMALL LETTER RUM ROTUNDAgCAPITAL LETTER V WITH DIAGONAL STROKE
gSMALL LETTER V WITH DIAGONAL STROKEgCAPITAL LETTER VYgSMALL LETTER VYgCAPITAL LETTER VISIGOTHIC Z
gSMALL LETTER VISIGOTHIC ZgCAPITAL LETTER THORN WITH STROKEgSMALL LETTER THORN WITH STROKE
gCAPITAL LETTER THORN WITH STROKE THROUGH DESCENDER
gSMALL LETTER THORN WITH STROKE THROUGH DESCENDERgCAPITAL LETTER VENDgSMALL LETTER VEND
gCAPITAL LETTER ETgSMALL LETTER ETgCAPITAL LETTER ISgSMALL LETTER ISgCAPITAL LETTER CON
gSMALL LETTER CONaMODIFIER LETTER USaLATIN SMALL LETTER DUMtLUMtMUMtNUMtRUM
gLETTER SMALL CAPITAL RUMgSMALL LETTER TUMtUMgCAPITAL LETTER INSULAR DgSMALL LETTER INSULAR D
gCAPITAL LETTER INSULAR FgSMALL LETTER INSULAR FgCAPITAL LETTER INSULAR GvTURNED INSULAR G
gSMALL LETTER TURNED INSULAR GgCAPITAL LETTER TURNED LgSMALL LETTER TURNED L
gCAPITAL LETTER INSULAR RgSMALL LETTER INSULAR RgCAPITAL LETTER INSULAR SgSMALL LETTER INSULAR S
gCAPITAL LETTER INSULAR TgSMALL LETTER INSULAR TaMODIFIER LETTER LOW CIRCUMFLEX ACCENTqCOLON
qSHORT EQUALS SIGNaLATIN CAPITAL LETTER SALTILLOgSMALL LETTER SALTILLOgCAPITAL LETTER TURNED H
gSMALL LETTER L WITH RETROFLEX HOOK AND BELTgLETTER SINOLOGICAL DOT
gCAPITAL LETTER N WITH DESCENDERgSMALL LETTER N WITH DESCENDERgCAPITAL LETTER C WITH BAR
gSMALL LETTER C WITH BARzbPALATAL HOOKtH WITH PALATAL HOOKgCAPITAL LETTER B WITH FLOURISH
gSMALL LETTER B WITH FLOURISHgCAPITAL LETTER F WITH STROKEgSMALL LETTER F WITH STROKE
gCAPITAL LETTER VOLAPUK AEgSMALL LETTER VOLAPUK AEgCAPITAL LETTER VOLAPUK OE
gSMALL LETTER VOLAPUK OEgCAPITAL LETTER VOLAPUK UEgSMALL LETTER VOLAPUK UE
gCAPITAL LETTER G WITH OBLIQUE STROKEgSMALL LETTER G WITH OBLIQUE STROKE
gCAPITAL LETTER K WITH OBLIQUE STROKEgSMALL LETTER K WITH OBLIQUE STROKE
gCAPITAL LETTER N WITH OBLIQUE STROKEgSMALL LETTER N WITH OBLIQUE STROKE
gCAPITAL LETTER R WITH OBLIQUE STROKEgSMALL LETTER R WITH OBLIQUE STROKE
gCAPITAL LETTER S WITH OBLIQUE STROKEgSMALL LETTER S WITH OBLIQUE STROKE
gCAPITAL LETTER H WITH HOOKvREVERSED OPEN EvSCRIPT GvL WITH BELTvSMALL CAPITAL I
gLETTER SMALL CAPITAL QgCAPITAL LETTER TURNED KzdTvJ WITH CROSSED-TAILvCHIvBETAgSMALL LETTER BETA
gCAPITAL LETTER OMEGAgSMALL LETTER OMEGAgCAPITAL LETTER U WITH STROKEgSMALL LETTER U WITH STROKE
gCAPITAL LETTER GLOTTAL AgSMALL LETTER GLOTTAL AgCAPITAL LETTER GLOTTAL IgSMALL LETTER GLOTTAL I
gCAPITAL LETTER GLOTTAL UgSMALL LETTER GLOTTAL UgCAPITAL LETTER OLD POLISH O
gSMALL LETTER OLD POLISH OgCAPITAL LETTER ANGLICANA WgSMALL LETTER ANGLICANA W
gCAPITAL LETTER C WITH PALATAL HOOKvS WITH HOOKvZ WITH PALATAL HOOKvD WITH SHORT STROKE OVERLAY
gSMALL LETTER D WITH SHORT STROKE OVERLAYgCAPITAL LETTER S WITH SHORT STROKE OVERLAY
gSMALL LETTER S WITH SHORT STROKE OVERLAY<A7D0>gCAPITAL LETTER CLOSED INSULAR G
gSMALL LETTER CLOSED INSULAR G<A7D3>tDOUBLE THORN<A7D5>zbWYNNgCAPITAL LETTER MIDDLE SCOTS S
gSMALL LETTER MIDDLE SCOTS SgCAPITAL LETTER SIGMOID SgSMALL LETTER SIGMOID S
<A7F2>aMODIFIER LETTER CAPITAL CyFyQaLATIN CAPITAL LETTER REVERSED HALF H
gSMALL LETTER REVERSED HALF HgEPIGRAPHIC LETTER SIDEWAYS IaMODIFIER LETTER CAPITAL H WITH STROKE
qSMALL LIGATURE OEaLATIN LETTER SMALL CAPITAL TURNED MgEPIGRAPHIC LETTER REVERSED FziPyINVERTED M
z LONGAyARCHAIC MaSYLOTI NAGRI LETTER AuInSIGN DVISVARAnLETTER UuEuOnSIGN HASANTAnLETTER KOvHOuGO
vHOnSIGN ANUSVARAnLETTER COvHOuJOvHOuTTOwHOuDDOwHOuTOvHOuDOvHOuNOuPOvHOuBOvHOuMOuROuLOuRROuSOuHO
nVOWEL SIGN AyIyUyEyOOnPOETRY MARK-1z2z3z4nSIGN ALTERNATE HASANTA
<A830>aNORTH INDIC FRACTION ONE QUARTERzHALFvTHREE QUARTERSvONE SIXTEENTHzEIGHTHvTHREE SIXTEENTHS
mQUARTER MARKmPLACEHOLDER MARKmRUPEE MARKmQUANTITY MARK<A840>aPHAGS-PA LETTER KArHAqGAqNGAqCArHA
qJAqNYAqTArHAqDAqNAqPArHAqBAqMAqTSAsHAqDZAqWAqZHArAqSMALL AqYAqRAqLAqSHArAqHAqAqIqUqEqOqQAqXAqFA
qGGAqEEjSUBJOINED LETTER WAzbYAjLETTER TTAsHAqDDAqNNAqALTERNATE YAqVOICELESS SHAvD HAqASPIRATED FA
jSUBJOINED LETTER RAlPERFIXED LETTER RAjLETTER CANDRABINDUjSINGLE HEAD MARKjDOUBLE HEAD MARK
jMARK SHADoDOUBLE SHAD<A880>aSAURASHTRA SIGN ANUSVARAqVISARGAlLETTER AtAsItIsUtUsVOCALIC RzcRzbL
zcLsEtEsAIsOtOsAUsKAtHAsGAtHAsNGAsCAtHAsJAtHAsNYAsTTAuHAsDDAuHAsNNAsTAtHAsDAtHAsNAsPAtHAsBAtHAsMA
sYAsRAsLAsVAsSHAtSAtAsHAsLLAlCONSONANT SIGN HAARUlVOWEL SIGN AAwIxIwUxUwVOCALIC RzgRzfLzgLwExEwAI
wOxOwAUlSIGN VIRAMAqCANDRABINDU<A8CE>lDANDAmOUBLE DANDAmIGIT ZEROrONErTWOsHREErFOURsIVErSIXsEVEN
rEIGHTrNINE<A8E0>aCOMBINING DEVANAGARI DIGIT ZEROzcONEzcTWOzdHREEzcFOURzdIVEzcSIXzdEVENzcEIGHT
zcNINEvLETTER AzdUzdKAzdNAzdPAzdRAzdVIvSIGN AVAGRAHAaDEVANAGARI SIGN SPACING CANDRABINDU
qCANDRABINDU VIRAMAqDOUBLE CANDRABINDU VIRAMAqCANDRABINDU TWOzeHREEzdAVAGRAHAqPUSHPIKAlGAP FILLER
lCARETlHEADSTROKElSIGN SIDDHAMlJAIN OMlLETTER AYlVOWEL SIGN AYaKAYAH LI DIGIT ZEROpONEpTWOqHREE
pFOURqIVEpSIXqEVENpEIGHTpNINEjLETTER KArHAqGAqNGAqSArHAqZAqNYAqTAqHTAqNAqPArHAqMAqDAqBAqRAqYAqLA
qWAqTHAqHAqVAqCAqAqOEqIqOOjVOWEL UEpEpUpEEpOjTONE PLOPHUoCALYAt PLOPHUjSIGN CWIoSHYA
aREJANG LETTER KAoGAoNGAoTAoDAoNAoPAoBAoMAoCAoJAoNYAoSAoRAoLAoYAoWAoHAoMBAoNGGApDApYJAoA
hVOWEL SIGN IsUsEsAIsOsAUsEUtAhCONSONANT SIGN NGwNwRwHhVIRAMA<A95F>hSECTION MARK
aHANGUL CHOSEONG TIKEUT-MIEUMxPIEUPxSIOSxCIEUCqRIEUL-KIYEOKwSSANGKIYEOKwTIKEUTwSSANGTIKEUTwMIEUM
wPIEUPwSSANGPIEUPwKAPYEOUNPIEUPwSIOSwCIEUCwKHIEUKHqMIEUM-KIYEOKwTIKEUTwSIOSqPIEUP-SIOS-THIEUTH
wKHIEUKHwHIEUHqSSANGSIOS-PIEUPqIEUNG-RIEULwHIEUHqSSANGCIEUC-HIEUHvTHIEUTHqPHIEUPH-HIEUHqHIEUH-SIOS
qSSANGYEORINHIEUH<A980>aJAVANESE SIGN PANYANGGAoCECAKoLAYARoWIGNYANjLETTER AqI KAWIqIrIqUqPA CEREK
qNGA LELETz RASWADIqEqAIqOqKAs SASAKtMURDAqGAs MURDAqNGAqCAs MURDAqJAqNYA MURDAqJA MAHAPRANAqNYA
qTTAt MAHAPRANAqDDAt MAHAPRANAqNA MURDAqTAs MURDAqDAs MAHAPRANAqNAqPAs MURDAqBAs MURDAqMAqYAqRA
s AGUNGqLAqWAqSA MURDAuAHAPRANArAqHAjSIGN CECAK TELUjVOWEL SIGN TARUNGvOLONGuWULUy MELIKuSUKU
y MENDUTuTALINGuDIRGA MUREuPEPETjCONSONANT SIGN KERETyPENGKALyCAKRAjPANGKONjLEFT RERENGGAN
jRIGHT RERENGGANjPADA ANDAPoMADYAoLUHURoWINDUoPANGKAToLINGSApUNGSIoADEGs ADEGoPISELEH
jTURNED PADA PISELEH<A9CF>jPANGRANGKEPjDIGIT ZEROpONEpTWOqHREEpFOURqIVEpSIXqEVENpEIGHTpNINE
<A9DE>jPADA TIRTA TUMETESoISEN-ISENaMYANMAR LETTER SHAN GHAuCHAuJHAuNNAuBHAiSIGN SHAN SAW
iMODIFIER LETTER SHAN REDUPLICATIONiLETTER TAI LAING NYAzFAzGAzbHAzJAzbHAzDDAzcHAzNNA
iTAI LAING DIGIT ZEROyONEyTWOzHREEyFOURzIVEySIXzEVENyEIGHTyNINEiLETTER TAI LAING LLAzDAzbHAzBAzbHA
<AA00>aCHAM LETTER AmImUmEmAImOmKAnHAmGAnHAmNGUEoAmCHAoHAmJAnHAmNHUEoAoJAmTAnHAmDAnHAmNUEnAmDDAmPA
nPAnHAmBAnHAmMUEnAmBBAmYAmRAmLAmVAmSSAnAmHAfVOWEL SIGN AAqIrIqEIqUqOEqOqAIrUqUEfCONSONANT SIGN YA
uRAuLAuWA<AA40>fLETTER FINAL KsGsNGfCONSONANT SIGN FINAL NGfLETTER FINAL CHsTsNsPsYsRsLsSS
fCONSONANT SIGN FINAL MzbH<AA50>fDIGIT ZEROlONElTWOmHREElFOURmIVElSIXmEVENlEIGHTlNINE
<AA5C>fPUNCTUATION SPIRALrDANDAsOUBLE DANDArTRIPLE DANDAaMYANMAR LETTER KHAMTI GAwCAxHAwJAxHAwNYA
wTTAyHAwDDAyHAxHAwNAwSAwHAxHAwFAiMODIFIER LETTER KHAMTI REDUPLICATIONiLETTER KHAMTI XAwZAwRA
jOGOGRAM KHAMTI OAYyQNyHMiSYMBOL AITON EXCLAMATIONvONEvTWOiLETTER AITON RAiSIGN PAO KAREN TONE
nTAI LAING TONE-2zd5iLETTER SHWE PALAUNG CHAzdSHAaTAI VIET LETTER LOW KOqHIGH KOqLOW KHOqHIGH KHO
qLOW KHHOqHIGH KHHOqLOW GOqHIGH GOqLOW NGOqHIGH NGOqLOW COqHIGH COqLOW CHOqHIGH CHOqLOW SOqHIGH SO
qLOW NYOqHIGH NYOqLOW DOqHIGH DOqLOW TOqHIGH TOqLOW THOqHIGH THOqLOW NOqHIGH NOqLOW BOqHIGH BO
qLOW POqHIGH POqLOW PHOqHIGH PHOqLOW FOqHIGH FOqLOW MOqHIGH MOqLOW YOqHIGH YOqLOW ROqHIGH RO
qLOW LOqHIGH LOqLOW VOqHIGH VOqLOW HOqHIGH HOqLOW OqHIGH OjMAI KANGjVOWEL AApIpUEpUpEpOjMAI KHIT
jVOWEL IApUEAqApAUEqYqNqMjTONE MAI EKsNUENGsTHOsSONG<AADB>jSYMBOL KONqNUENGqSAMqHO HOIqKOI KOI
aMEETEI MAYEK LETTER EuOuCHAuNYAuTTAwHAuDDAwHAuNNAuSHAvSAnVOWEL SIGN IIyUUyAAIzUzAUnCHEIKHAN
nAHANG KHUDAMoNJInSYLLABLE REPETITION MARKnWORD REPETITION MARKnVOWEL SIGN VISARGAoIRAMA
<AB01>aETHIOPIC SYLLABLE TTHUvIvAAvEEvEvO<AB09>sDDHUvIvAAvEEvEvO<AB11>tZUuIuAAuEEuEuO<AB20>sCCHHA
wUwIwAAwEEwEwO<AB28>sBBAuUuIuAAuEEuEuO<AB30>aLATIN SMALL LETTER BARRED ALPHAtA REVERSED-SCHWA
tBLACKLETTER EuARRED EtE WITH FLOURISHtLENIS FtSCRIPT G WITH CROSSED-TAILtL WITH INVERTED LAZY S
zbDOUBLE MIDDLE TILDEzbMIDDLE RINGtM WITH CROSSED-TAILtN WITH CROSSED-TAILtENG WITH CROSSED-TAIL
tBLACKLETTER Ozh WITH STROKEtOPEN O WITH STROKEtINVERTED OEtTURNED OE WITH STROKE
zjHORIZONTAL STROKEzc OPEN-Ozj WITH STROKEtSTIRRUP RgLETTER SMALL CAPITAL R WITH RIGHT LEG
gSMALL LETTER R WITHOUT HANDLEtDOUBLE RtR WITH CROSSED-TAILtDOUBLE R WITH CROSSED-TAILtSCRIPT R
zc WITH RINGtBASELINE ESHtU WITH SHORT RIGHT LEGvBAR WITH SHORT RIGHT LEGuItTURNED UI
tU WITH LEFT HOOKtCHIw WITH LOW RIGHT RINGzhLEFT SERIFtX WITH LOW RIGHT RINGzdNG LEFT LEG
zo AND LOW RIGHT RINGzpWITH SERIFtY WITH SHORT RIGHT LEGaMODIFIER BREVE WITH INVERTED BREVE
jLETTER SMALL HENGwL WITH INVERTED LAZY SzeMIDDLE TILDEwU WITH LEFT HOOK
aLATIN SMALL LETTER SAKHA YATtIOTIFIED EtOPEN OEtUOtINVERTED ALPHA
aGREEK LETTER SMALL CAPITAL OMEGAaLATIN SMALL LETTER DZ DIGRAPH WITH RETROFLEX HOOK
tTS DIGRAPH WITH RETROFLEX HOOKuURNED R WITH MIDDLE TILDEaMODIFIER LETTER SMALL TURNED WqLEFT TACK
qRIGHT TACK<AB70>aCHEROKEE SMALL LETTER AwEwIwOwUwVwGAwKAwGExIxOxUxVwHAxExIxOxUxVwLAxExIxOxUxVwMA
xExIxOxUwNAwHNAwNAHxExIxOxUxVwQUAyEyIyOyUyVwSAwSxExIxOxUxVwDAwTAwDEwTEwDIwTIwDOxUxVxLAwTLAyEyIyOyU
yVxSAyEyIyOyUyVwWAxExIxOxUxVwYAaMEETEI MAYEK LETTER KOKuSAMuLAIuMITuPAuNAuCHILuTILuKHOUuNGOUuTHOU
uWAIuYANGuHUKuUNuIuPHAMuATIYAuGOKuJHAMuRAIuBAuJILuDILuGHOUuDHOUuBHAMuKOK LONSUMuLAI LONSUM
uMIT LONSUMuPA LONSUMuNA LONSUMuTIL LONSUMuNGOU LONSUMuI LONSUMnVOWEL SIGN ONAPyINAPyANAPyYENAP
ySOUNAPyUNAPyCHEINAPyNUNGnCHEIKHEInLUM IYEKnAPUN IYEK<ABF0>nDIGIT ZEROtONEtTWOuHREEtFOURuIVEtSIX
uEVENtEIGHTtNINE<D7B0>aHANGUL JUNGSEONG O-YEOtO-IrYO-AvEuEOrU-YEOtI-IrYU-AEuOrEU-AuEOuEuOrI-YA-OvE
uEOuEtO-ItYOuUtIrARAEA-AxE<D7CB>iONGSEONG NIEUN-RIEULxCHIEUCHrSSANGTIKEUTzd-PIEUPrTIKEUT-PIEUP
ySIOSzd-KIYEOKyCIEUCzHIEUCHyTHIEUTHrRIEUL-SSANGKIYEOKxKIYEOK-HIEUHrSSANGRIEUL-KHIEUKH
rRIEUL-MIEUM-HIEUHxPIEUP-TIKEUTzePHIEUPHxYESIEUNGzORINHIEUH-HIEUHrKAPYEOUNRIEULrMIEUM-NIEUN
xSSANGNIEUNrSSANGMIEUMrMIEUM-PIEUP-SIOSxCIEUCrPIEUP-TIKEUTxRIEUL-PHIEUPHxMIEUMrSSANGPIEUP
rPIEUP-SIOS-TIKEUTxCIEUCyHIEUCHrSIOS-MIEUMwKAPYEOUNPIEUPsSANGSIOS-KIYEOKzcTIKEUTsIOS-PANSIOSwCIEUC
xHIEUCHwTHIEUTHwHIEUHrPANSIOS-PIEUPzKAPYEOUNPIEUPrYESIEUNG-MIEUMzbHIEUHrCIEUC-PIEUPxSSANGPIEUP
rSSANGCIEUCrPHIEUPH-SIOSzTHIEUTH"

end Name
end Text
end WorkflowKit
