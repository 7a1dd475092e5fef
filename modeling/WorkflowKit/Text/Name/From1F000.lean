/-
# Names of characters from U+1F000 to U+10FFFF

The names are written as `WorkflowKit.Text.Name` says.
-/

namespace WorkflowKit
namespace Text
namespace Name

/-- The names of the characters from U+1F000 to U+10FFFF. -/
def namesFrom1F000 : String := "
<1F000>aMAHJONG TILE EAST WINDnSOUTH WINDnWEST WINDnNORTH WINDnRED DRAGONnGREEN DRAGON
nWHITE DRAGONnONE OF CHARACTERSnTWO OF CHARACTERSoHREE OF CHARACTERSnFOUR OF CHARACTERS
oIVE OF CHARACTERSnSIX OF CHARACTERSoEVEN OF CHARACTERSnEIGHT OF CHARACTERSnNINE OF CHARACTERS
nONE OF BAMBOOSnTWO OF BAMBOOSoHREE OF BAMBOOSnFOUR OF BAMBOOSoIVE OF BAMBOOSnSIX OF BAMBOOS
oEVEN OF BAMBOOSnEIGHT OF BAMBOOSnNINE OF BAMBOOSnONE OF CIRCLESnTWO OF CIRCLESoHREE OF CIRCLES
nFOUR OF CIRCLESoIVE OF CIRCLESnSIX OF CIRCLESoEVEN OF CIRCLESnEIGHT OF CIRCLESnNINE OF CIRCLES
nPLUMnORCHIDnBAMBOOnCHRYSANTHEMUMnSPRINGoUMMERnAUTUMNnWINTERnJOKERnBACK
<1F030>aDOMINO TILE HORIZONTAL BACKw-00-00zc1zc2zc3zc4zc5zc6y1-00zc1zc2zc3zc4zc5zc6y2-00zc1zc2zc3
zc4zc5zc6y3-00zc1zc2zc3zc4zc5zc6y4-00zc1zc2zc3zc4zc5zc6y5-00zc1zc2zc3zc4zc5zc6y6-00zc1zc2zc3zc4zc5
zc6mVERTICAL BACKu-00-00z1z2z3z4z5z6w1-00z1z2z3z4z5z6w2-00z1z2z3z4z5z6w3-00z1z2z3z4z5z6w4-00z1z2z3
z4z5z6w5-00z1z2z3z4z5z6w6-00z1z2z3z4z5z6<1F0A0>aPLAYING CARD BACKnACE OF SPADESnTWO OF SPADES
oHREE OF SPADESnFOUR OF SPADESoIVE OF SPADESnSIX OF SPADESoEVEN OF SPADESnEIGHT OF SPADES
nNINE OF SPADESnTEN OF SPADESnJACK OF SPADESnKNIGHT OF SPADESnQUEEN OF SPADESnKING OF SPADES
<1F0B1>nACE OF HEARTSnTWO OF HEARTSoHREE OF HEARTSnFOUR OF HEARTSoIVE OF HEARTSnSIX OF HEARTS
oEVEN OF HEARTSnEIGHT OF HEARTSnNINE OF HEARTSnTEN OF HEARTSnJACK OF HEARTSnKNIGHT OF HEARTS
nQUEEN OF HEARTSnKING OF HEARTSnRED JOKER<1F0C1>nACE OF DIAMONDSnTWO OF DIAMONDSoHREE OF DIAMONDS
nFOUR OF DIAMONDSoIVE OF DIAMONDSnSIX OF DIAMONDSoEVEN OF DIAMONDSnEIGHT OF DIAMONDS
nNINE OF DIAMONDSnTEN OF DIAMONDSnJACK OF DIAMONDSnKNIGHT OF DIAMONDSnQUEEN OF DIAMONDS
nKING OF DIAMONDSnBLACK JOKER<1F0D1>nACE OF CLUBSnTWO OF CLUBSoHREE OF CLUBSnFOUR OF CLUBS
oIVE OF CLUBSnSIX OF CLUBSoEVEN OF CLUBSnEIGHT OF CLUBSnNINE OF CLUBSnTEN OF CLUBSnJACK OF CLUBS
nKNIGHT OF CLUBSnQUEEN OF CLUBSnKING OF CLUBSnWHITE JOKERnFOOLnTRUMP-1t2t3t4t5t6t7t8t9t10u1u2u3u4
u5u6u7u8u9t20u1<1F100>aDIGIT ZERO FULL STOPlCOMMAgONE COMMAgTWO COMMAhHREE COMMAgFOUR COMMA
hIVE COMMAgSIX COMMAhEVEN COMMAgEIGHT COMMAgNINE COMMAcNGBAT CIRCLED SANS-SERIF DIGIT ZERO
iNEGATIVE CIRCLED SANS-SERIF DIGIT ZEROaCIRCLED ZERO WITH SLASHiANTICLOCKWISE ARROW
iDOLLAR SIGN WITH OVERLAID BACKSLASHaPARENTHESIZED LATIN CAPITAL LETTER AzkBzkCzkDzkEzkFzkGzkHzkI
zkJzkKzkLzkMzkNzkOzkPzkQzkRzkSzkTzkUzkVzkWzkXzkYzkZ
aTORTOISE SHELL BRACKETED LATIN CAPITAL LETTER SaCIRCLED ITALIC LATIN CAPITAL LETTER CzlRiCDiWZ
bOPYLEFT SYMBOLaSQUARED LATIN CAPITAL LETTER AzeBzeCzeDzeEzeFzeGzeHzeIzeJzeKzeLzeMzeNzeOzePzeQzeR
zeSzeTzeUzeVzeWzeXzeYzeZiHViMViSDjSiPPViWCaNEGATIVE CIRCLED LATIN CAPITAL LETTER AznBznCznDznEznF
znGznHznIznJznKznLznMznNznOznPznQznRznSznTznUznVznWznXznYznZaRAISED MC SIGNiD SIGNiR SIGN
aCIRCLED CCj WITH OVERLAID BACKSLASHiHUMAN FIGUREaNEGATIVE SQUARED LATIN CAPITAL LETTER AznBznCznD
znEznFznGznHznIznJznKznLznMznNznOznPznQznRznSznTznUznVznWznXznYznZ
aCROSSED NEGATIVE SQUARED LATIN CAPITAL LETTER PaNEGATIVE SQUARED ICrPArSArABrWCaSQUARE DJgD CL
jOOLiFREEiIDiNEWjGiOKiSOSiUP WITH EXCLAMATION MARKiVSiTHREE DiSECOND SCREENiTWO KiFOUR KiEIGHT K
iFIVE POINT ONEiSEVEN POINT ONEiTWENTY-TWO POINT TWOiSIXTY PiONE HUNDRED TWENTY P
iLATIN SMALL LETTER DiHCjDRjI-RESiLOSSLESSiSHViUHDiVODaMASK WORK SYMBOL
<1F1E6>aREGIONAL INDICATOR SYMBOL LETTER AziBziCziDziEziFziGziHziIziJziKziLziMziNziOziPziQziRziS
ziTziUziVziWziXziYziZaSQUARE HIRAGANA HOKAgD KATAKANA KOKOrSA<1F210>iCJK UNIFIED IDEOGRAPH-624B
zf5B57zg3CCiKATAKANA DEiCJK UNIFIED IDEOGRAPH-4E8Czf591Azf89E3zf5929zf4EA4zf6620zf7121zf6599zf524D
zgF8Czg18Dzf65B0zf521Dzf7D42zg51Fzf8CA9zf58F0zg439zf6F14zg295zg355zf4E00zi9zf904Azf5DE6zf4E2D
zf53F3zf6307zf8D70zf6253zf7981zgA7Azf5408zf6E80zg709zi8zf7533zf5272zg5B6zf914D
<1F240>aTORTOISE SHELL BRACKETED CJK UNIFIED IDEOGRAPH-672Czw4E09zy8Czw5B89zw70B9zw6253zw76D7
zw52DDzw6557<1F250>aCIRCLED IDEOGRAPH ADVANTAGEtCCEPT<1F260>aROUNDED SYMBOL FOR FUtLUtSHOUtXI
tSHUANGXItCAI<1F300>aCYCLONEaFOGGYaCLOSED UMBRELLAaNIGHT WITH STARSaSUNRISE OVER MOUNTAINSgE
aCITYSCAPE AT DUSKaSUNSET OVER BUILDINGSaRAINBOWaBRIDGE AT NIGHTaWATER WAVEaVOLCANOaMILKY WAY
aEARTH GLOBE EUROPE-AFRICAmAMERICASnSIA-AUSTRALIAaGLOBE WITH MERIDIANSaNEW MOON SYMBOL
aWAXING CRESCENT MOON SYMBOLaFIRST QUARTER MOON SYMBOLaWAXING GIBBOUS MOON SYMBOLaFULL MOON SYMBOL
aWANING GIBBOUS MOON SYMBOLaLAST QUARTER MOON SYMBOLaWANING CRESCENT MOON SYMBOLaCRESCENT MOON
aNEW MOON WITH FACEaFIRST QUARTER MOON WITH FACEaLAST QUARTER MOON WITH FACEaFULL MOON WITH FACE
aSUN WITH FACEaGLOWING STARaSHOOTING STARaTHERMOMETERaBLACK DROPLETaWHITE SUNj WITH SMALL CLOUD
kBEHIND CLOUDw WITH RAINaCLOUD WITH RAINlSNOWlLIGHTNINGlTORNADOaFOGaWIND BLOWING FACEaHOT DOGaTACO
aBURRITOaCHESTNUTaSEEDLINGaEVERGREEN TREEaDECIDUOUS TREEaPALM TREEaCACTUSaHOT PEPPERaTULIP
aCHERRY BLOSSOMaROSEaHIBISCUSaSUNFLOWERaBLOSSOMaEAR OF MAIZEhRICEaHERBaFOUR LEAF CLOVERaMAPLE LEAF
aFALLEN LEAFaLEAF FLUTTERING IN WINDaMUSHROOMaTOMATOaAUBERGINEaGRAPESaMELONaWATERMELONaTANGERINE
aLEMONaBANANAaPINEAPPLEaRED APPLEaGREEN APPLEaPEARdCHaCHERRIESaSTRAWBERRYaHAMBURGERaSLICE OF PIZZA
aMEAT ON BONEaPOULTRY LEGaRICE CRACKERfBALLaCOOKED RICEbURRY AND RICEaSTEAMING BOWLbPAGHETTIaBREAD
aFRENCH FRIESaROASTED SWEET POTATOaDANGOaODENaSUSHIaFRIED SHRIMPbISH CAKE WITH SWIRL DESIGN
aSOFT ICE CREAMbHAVED ICEaICE CREAMaDOUGHNUTaCOOKIEbHOCOLATE BARbANDYaLOLLIPOPaCUSTARDaHONEY POT
aSHORTCAKEaBENTO BOXaPOT OF FOODaCOOKINGaFORK AND KNIFEaTEACUP WITHOUT HANDLEaSAKE BOTTLE AND CUP
aWINE GLASSaCOCKTAIL GLASSaTROPICAL DRINKaBEER MUGaCLINKING BEER MUGSaBABY BOTTLE
aFORK AND KNIFE WITH PLATEaBOTTLE WITH POPPING CORKaPOPCORNaRIBBONaWRAPPED PRESENTaBIRTHDAY CAKE
aJACK-O-LANTERNaCHRISTMAS TREEaFATHER CHRISTMASbIREWORKSi SPARKLERaBALLOONaPARTY POPPER
aCONFETTI BALLaTANABATA TREEaCROSSED FLAGSaPINE DECORATIONaJAPANESE DOLLSaCARP STREAMERaWIND CHIME
aMOON VIEWING CEREMONYaSCHOOL SATCHELaGRADUATION CAPaHEART WITH TIP ON THE LEFTaBOUQUET OF FLOWERS
aMILITARY MEDALaREMINDER RIBBONaMUSICAL KEYBOARD WITH JACKSaSTUDIO MICROPHONEaLEVEL SLIDER
aCONTROL KNOBSaBEAMED ASCENDING MUSICAL NOTEShDESCENDING MUSICAL NOTESaFILM FRAMES
aADMISSION TICKETSaCAROUSEL HORSEaFERRIS WHEELaROLLER COASTERaFISHING POLE AND FISHaMICROPHONE
bOVIE CAMERAaCINEMAaHEADPHONEaARTIST PALETTEaTOP HATaCIRCUS TENTaTICKETaCLAPPER BOARD
aPERFORMING ARTSaVIDEO GAMEaDIRECT HITaSLOT MACHINEaBILLIARDSaGAME DIEaBOWLING
aFLOWER PLAYING CARDSaMUSICAL NOTEcLTIPLE MUSICAL NOTESaSAXOPHONEaGUITARaMUSICAL KEYBOARDaTRUMPET
aVIOLINaMUSICAL SCOREaRUNNING SHIRT WITH SASHaTENNIS RACQUET AND BALLaSKI AND SKI BOOT
aBASKETBALL AND HOOPaCHEQUERED FLAGaSNOWBOARDERaRUNNERaSURFERbPORTS MEDALaTROPHYaHORSE RACING
aAMERICAN FOOTBALLaRUGBY FOOTBALLaSWIMMERaWEIGHT LIFTERaGOLFERaRACING MOTORCYCLEhCAR
aCRICKET BAT AND BALLaVOLLEYBALLaFIELD HOCKEY STICK AND BALLaICE HOCKEY STICK AND PUCK
aTABLE TENNIS PADDLE AND BALLaSNOW CAPPED MOUNTAINaCAMPINGaBEACH WITH UMBRELLA
bUILDING CONSTRUCTIONaHOUSE BUILDINGSaCITYSCAPEaDERELICT HOUSE BUILDINGaCLASSICAL BUILDINGaDESERT
g ISLANDaNATIONAL PARKaSTADIUMaHOUSE BUILDINGgWITH GARDENaOFFICE BUILDINGaJAPANESE POST OFFICE
aEUROPEAN POST OFFICEaHOSPITALaBANKaAUTOMATED TELLER MACHINEaHOTELaLOVE HOTELaCONVENIENCE STORE
aSCHOOLaDEPARTMENT STOREaFACTORYaIZAKAYA LANTERNaJAPANESE CASTLEaEUROPEAN CASTLEaWHITE PENNANT
aBLACK PENNANTaWAVING WHITE FLAGhBLACK FLAGaROSETTEaBLACK ROSETTEaLABEL
aBADMINTON RACQUET AND SHUTTLECOCKbOW AND ARROWaAMPHORAaEMOJI MODIFIER FITZPATRICK TYPE-1-2zh3zh4
zh5zh6aRATaMOUSEaOXaWATER BUFFALOaCOWaTIGERaLEOPARDaRABBITaCATaDRAGONaCROCODILEaWHALEaSNAILdKE
aHORSEaRAMaGOATaSHEEPaMONKEYaROOSTERaCHICKENaDOGaPIGaBOARaELEPHANTaOCTOPUSaSPIRAL SHELLaBUGaANT
aHONEYBEEaLADY BEETLEaFISHaTROPICAL FISHaBLOWFISHaTURTLEaHATCHING CHICKaBABY CHICK
aFRONT-FACING BABY CHICKaBIRDaPENGUINaKOALAaPOODLEaDROMEDARY CAMELaBACTRIAN CAMELaDOLPHIN
aMOUSE FACEaCOW FACEaTIGER FACEaRABBIT FACEaCAT FACEaDRAGON FACEaSPOUTING WHALEaHORSE FACE
aMONKEY FACEaDOG FACEaPIG FACEaFROG FACEaHAMSTER FACEaWOLF FACEaBEAR FACEaPANDA FACEbIG NOSE
bAW PRINTSaCHIPMUNKaEYEScEbARaNOSEaMOUTHaTONGUEaWHITE UP POINTING BACKHAND INDEX
gDOWN POINTING BACKHAND INDEXgLEFT POINTING BACKHAND INDEXgRIGHT POINTING BACKHAND INDEX
aFISTED HAND SIGNaWAVING HAND SIGNaOK HAND SIGNaTHUMBS UP SIGNhDOWN SIGNaCLAPPING HANDS SIGN
aOPEN HANDS SIGNaCROWNaWOMANS HATaEYEGLASSESaNECKTIEaT-SHIRTaJEANSaDRESSaKIMONOaBIKINI
aWOMANS CLOTHESaPURSEaHANDBAGaPOUCHaMANS SHOEaATHLETIC SHOEaHIGH-HEELED SHOEaWOMANS SANDALhBOOTS
aFOOTPRINTSaBUST IN SILHOUETTEeS IN SILHOUETTEbOYaGIRLaMANaWOMANaFAMILY
aMAN AND WOMAN HOLDING HANDSaTWO MEN HOLDING HANDSeWOMEN HOLDING HANDSaPOLICE OFFICER
aWOMAN WITH BUNNY EARSaBRIDE WITH VEILaPERSON WITH BLOND HAIRaMAN WITH GUA PI MAOjTURBANaOLDER MAN
gWOMANaBABYaCONSTRUCTION WORKERaPRINCESSaJAPANESE OGREjGOBLINaGHOSTaBABY ANGEL
aEXTRATERRESTRIAL ALIENaALIEN MONSTERaIMPaSKULLaINFORMATION DESK PERSONaGUARDSMANaDANCERaLIPSTICK
aNAIL POLISHaFACE MASSAGEaHAIRCUTaBARBER POLEaSYRINGEaPILLaKISS MARKaLOVE LETTERaRINGaGEM STONE
aKISSaBOUQUETaCOUPLE WITH HEARTaWEDDINGaBEATING HEARTbROKEN HEARTaTWO HEARTSaSPARKLING HEART
aGROWING HEARTaHEART WITH ARROWaBLUE HEARTaGREEN HEARTaYELLOW HEARTaPURPLE HEARTaHEART WITH RIBBON
aREVOLVING HEARTSaHEART DECORATIONaDIAMOND SHAPE WITH A DOT INSIDEaELECTRIC LIGHT BULB
aANGER SYMBOLaBOMBaSLEEPING SYMBOLaCOLLISION SYMBOLaSPLASHING SWEAT SYMBOLaDROPLETbASH SYMBOL
aPILE OF POOaFLEXED BICEPSaDIZZY SYMBOLaSPEECH BALLOONaTHOUGHT BALLOONaWHITE FLOWER
aHUNDRED POINTS SYMBOLaMONEY BAGaCURRENCY EXCHANGEaHEAVY DOLLAR SIGNaCREDIT CARD
aBANKNOTE WITH YEN SIGNoDOLLAR SIGNoEURO SIGNoPOUND SIGNaMONEY WITH WINGS
aCHART WITH UPWARDS TREND AND YEN SIGNaSEATaPERSONAL COMPUTERaBRIEFCASEaMINIDISCaFLOPPY DISK
aOPTICAL DISCaDVDaFILE FOLDERaOPEN FILE FOLDERaPAGE WITH CURLfFACING UPaCALENDARaTEAR-OFF CALENDAR
aCARD INDEXbHART WITH UPWARDS TRENDlDOWNWARDS TRENDaBAR CHARTaCLIPBOARDaPUSHPINaROUND PUSHPIN
aPAPERCLIPaSTRAIGHT RULERaTRIANGULAR RULERaBOOKMARK TABSaLEDGERaNOTEBOOKi WITH DECORATIVE COVER
aCLOSED BOOKaOPEN BOOKaGREEN BOOKaBLUE BOOKaORANGE BOOKaBOOKSaNAME BADGEaSCROLLaMEMO
aTELEPHONE RECEIVERaPAGERaFAX MACHINEaSATELLITE ANTENNAaPUBLIC ADDRESS LOUDSPEAKER
aCHEERING MEGAPHONEaOUTBOX TRAYaINBOX TRAYaPACKAGEaE-MAIL SYMBOLaINCOMING ENVELOPE
aENVELOPE WITH DOWNWARDS ARROW ABOVEaCLOSED MAILBOX WITH LOWERED FLAGuRAISED FLAG
aOPEN MAILBOX WITH RAISED FLAGsLOWERED FLAGaPOSTBOXeAL HORNaNEWSPAPERaMOBILE PHONE
m WITH RIGHTWARDS ARROW AT LEFTaVIBRATION MODEaMOBILE PHONE OFFaNO MOBILE PHONESaANTENNA WITH BARS
aCAMERAg WITH FLASHaVIDEO CAMERAaTELEVISIONaRADIOaVIDEOCASSETTEaFILM PROJECTORaPORTABLE STEREO
bRAYER BEADSaTWISTED RIGHTWARDS ARROWSaCLOCKWISE RIGHTWARDS AND LEFTWARDS OPEN CIRCLE ARROWS
zzd WITH CIRCLED ONE OVERLAYkDOWNWARDS AND UPWARDS OPEN CIRCLE ARROWS
aANTICLOCKWISE DOWNWARDS AND UPWARDS OPEN CIRCLE ARROWSaLOW BRIGHTNESS SYMBOL
aHIGH BRIGHTNESS SYMBOLaSPEAKER WITH CANCELLATION STROKEgRh WITH ONE SOUND WAVEnTHREE SOUND WAVES
aBATTERYaELECTRIC PLUGaLEFT-POINTING MAGNIFYING GLASSaRIGHT-POINTING MAGNIFYING GLASS
aLOCK WITH INK PENaCLOSED LOCK WITH KEYaKEYaLOCKaOPEN LOCKaBELLe WITH CANCELLATION STROKEbOOKMARK
aLINK SYMBOLaRADIO BUTTONaBACK WITH LEFTWARDS ARROW ABOVEaEND WITH LEFTWARDS ARROW ABOVE
aON WITH EXCLAMATION MARK WITH LEFT RIGHT ARROW ABOVEaSOON WITH RIGHTWARDS ARROW ABOVE
aTOP WITH UPWARDS ARROW ABOVEaNO ONE UNDER EIGHTEEN SYMBOLaKEYCAP TEN
aINPUT SYMBOL FOR LATIN CAPITAL LETTERSxSMALL LETTERSrNUMBERSrSYMBOLSrLATIN LETTERSaFIRE
aELECTRIC TORCHaWRENCHaHAMMERaNUT AND BOLTaHOCHOaPISTOLaMICROSCOPEaTELESCOPEaCRYSTAL BALL
aSIX POINTED STAR WITH MIDDLE DOTaJAPANESE SYMBOL FOR BEGINNERaTRIDENT EMBLEMaBLACK SQUARE BUTTON
aWHITE SQUARE BUTTONaLARGE RED CIRCLEgBLUE CIRCLEgORANGE DIAMONDgBLUE DIAMONDaSMALL ORANGE DIAMOND
gBLUE DIAMONDaUP-POINTING RED TRIANGLEaDOWN-POINTING RED TRIANGLEaUP-POINTING SMALL RED TRIANGLE
aDOWN-POINTING SMALL RED TRIANGLEaLOWER RIGHT SHADOWED WHITE CIRCLE
aUPPER RIGHT SHADOWED WHITE CIRCLEaCIRCLED CROSS POMMEEbROSS POMMEE WITH HALF-CIRCLE BELOWlE
aNOTCHED LEFT SEMICIRCLE WITH THREE DOTSiRIGHT SEMICIRCLE WITH THREE DOTSaSYMBOL FOR MARKS CHAPTER
aWHITE LATIN CROSSaHEAVY LATIN CROSSaCELTIC CROSSaOM SYMBOLaDOVE OF PEACEaKAABAaMOSQUEaSYNAGOGUE
aMENORAH WITH NINE BRANCHESaBOWL OF HYGIEIAaCLOCK FACE ONE OCLOCKlTWO OCLOCKmHREE OCLOCK
lFOUR OCLOCKmIVE OCLOCKlSIX OCLOCKmEVEN OCLOCKlEIGHT OCLOCKlNINE OCLOCKlTEN OCLOCKlELEVEN OCLOCK
lTWELVE OCLOCKlONE-THIRTYlTWO-THIRTYmHREE-THIRTYlFOUR-THIRTYmIVE-THIRTYlSIX-THIRTYmEVEN-THIRTY
lEIGHT-THIRTYlNINE-THIRTYlTEN-THIRTYlELEVEN-THIRTYlTWELVE-THIRTYaRIGHT SPEAKER
n WITH ONE SOUND WAVEtTHREE SOUND WAVESaBULLHORNi WITH SOUND WAVESaRINGING BELLaBOOKaCANDLE
aMANTELPIECE CLOCKaBLACK SKULL AND CROSSBONESaNO PIRACYaHOLEaMAN IN BUSINESS SUIT LEVITATING
aSLEUTH OR SPYaDARK SUNGLASSESaSPIDERg WEBaJOYSTICKaMAN DANCINGaLEFT HAND TELEPHONE RECEIVER
aTELEPHONE RECEIVER WITH PAGEaRIGHT HAND TELEPHONE RECEIVERaWHITE TOUCHTONE TELEPHONE
aBLACK TOUCHTONE TELEPHONEaTELEPHONE ON TOP OF MODEMaCLAMSHELL MOBILE PHONEaBACK OF ENVELOPE
aSTAMPED ENVELOPEaENVELOPE WITH LIGHTNINGaFLYING ENVELOPEaPEN OVER STAMPED ENVELOPE
aLINKED PAPERCLIPSaBLACK PUSHPINaLOWER LEFT PENCILlBALLPOINT PENlFOUNTAIN PENlPAINTBRUSHlCRAYON
bEFT WRITING HANDaTURNED OK HAND SIGNaRAISED HAND WITH FINGERS SPLAYED
bEVERSED RAISED HAND WITH FINGERS SPLAYEDjTHUMBS UP SIGNqDOWN SIGNjVICTORY HAND
jHAND WITH MIDDLE FINGER EXTENDEDbAISED HAND WITH PART BETWEEN MIDDLE AND RING FINGERS
aWHITE DOWN POINTING LEFT HAND INDEXaSIDEWAYS WHITE LEFT POINTING INDEXpRIGHT POINTING INDEX
jBLACK LEFT POINTING INDEXpRIGHT POINTING INDEXaBLACK LEFT POINTING BACKHAND INDEX
gRIGHT POINTING BACKHAND INDEXaSIDEWAYS WHITE UP POINTING INDEXpDOWN POINTING INDEX
jBLACK UP POINTING INDEXpDOWN POINTING INDEXaBLACK UP POINTING BACKHAND INDEX
gDOWN POINTING BACKHAND INDEXgHEARTaDESKTOP COMPUTERaKEYBOARD AND MOUSEaTHREE NETWORKED COMPUTERS
aPRINTERbOCKET CALCULATORaBLACK HARD SHELL FLOPPY DISKaWHITE HARD SHELL FLOPPY DISK
aSOFT SHELL FLOPPY DISKaTAPE CARTRIDGEaWIRED KEYBOARDaONE BUTTON MOUSEaTWO BUTTON MOUSE
bHREE BUTTON MOUSEbRACKBALLaOLD PERSONAL COMPUTERaHARD DISKaSCREENaPRINTER ICONaFAX ICON
aOPTICAL DISC ICONaDOCUMENT WITH TEXTs AND PICTUREoPICTUREaFRAME WITH PICTURElTILESlAN X
aBLACK FOLDERaFOLDERaOPEN FOLDERaCARD INDEX DIVIDERSfFILE BOXaFILE CABINETaEMPTY NOTEk PAGEnDaNOTE
e PAGEhDaEMPTY DOCUMENTgPAGEkSaDOCUMENTaPAGEeSaWASTEBASKETaSPIRAL NOTE PADhCALENDAR PAD
aDESKTOP WINDOWaMINIMIZEbAXIMIZEaOVERLAPaCLOCKWISE RIGHT AND LEFT SEMICIRCLE ARROWSbANCELLATION X
aINCREASE FONT SIZE SYMBOLaDECREASE FONT SIZE SYMBOLaCOMPRESSIONaOLD KEYaROLLED-UP NEWSPAPER
aPAGE WITH CIRCLED TEXTaSTOCK CHARTaDAGGER KNIFEaLIPSaSPEAKING HEAD IN SILHOUETTEaTHREE RAYS ABOVE
lBELOWlLEFTlRIGHTaLEFT SPEECH BUBBLEaRIGHT SPEECH BUBBLEaTWO SPEECH BUBBLESbHREE SPEECH BUBBLES
aLEFT THOUGHT BUBBLEaRIGHT THOUGHT BUBBLEaLEFT ANGER BUBBLEaRIGHT ANGER BUBBLEaMOOD BUBBLE
aLIGHTNING MOOD BUBBLEnDaBALLOT BOX WITH BALLOThSCRIPT XhBOX WITH SCRIPT XjLD SCRIPT X
jX WITH BOLD SCRIPT XaLIGHT CHECK MARKaBALLOT BOX WITH BOLD CHECKaWORLD MAPaMOUNT FUJIaTOKYO TOWER
aSTATUE OF LIBERTYbILHOUETTE OF JAPANaMOYAIaGRINNING FACEn WITH SMILING EYES
aFACE WITH TEARS OF JOYaSMILING FACE WITH OPEN MOUTHzd AND SMILING EYESziCOLD SWEAT
ziTIGHTLY-CLOSED EYESsHALOtORNSaWINKING FACEaSMILING FACE WITH SMILING EYES
aFACE SAVOURING DELICIOUS FOODaRELIEVED FACEaSMILING FACE WITH HEART-SHAPED EYESsSUNGLASSES
dRKING FACEaNEUTRAL FACEaEXPRESSIONLESS FACEaUNAMUSED FACEaFACE WITH COLD SWEATaPENSIVE FACE
aCONFUSED FACEeOUNDED FACEaKISSING FACEaFACE THROWING A KISSaKISSING FACE WITH SMILING EYES
sCLOSED EYESaFACE WITH STUCK-OUT TONGUEzb AND WINKING EYEzgTIGHTLY-CLOSED EYESaDISAPPOINTED FACE
aWORRIED FACEaANGRY FACEaPOUTING FACEaCRYING FACEaPERSEVERING FACEaFACE WITH LOOK OF TRIUMPH
aDISAPPOINTED BUT RELIEVED FACEaFROWNING FACE WITH OPEN MOUTHaANGUISHED FACEaFEARFUL FACE
aWEARY FACEaSLEEPY FACEaTIRED FACEaGRIMACING FACEaLOUDLY CRYING FACEaFACE WITH OPEN MOUTH
aHUSHED FACEaFACE WITH OPEN MOUTH AND COLD SWEATfSCREAMING IN FEARaASTONISHED FACEaFLUSHED FACE
aSLEEPING FACEaDIZZY FACEaFACE WITHOUT MOUTHj MEDICAL MASKaGRINNING CAT FACE WITH SMILING EYES
aCAT FACE WITH TEARS OF JOYaSMILING CAT FACE WITH OPEN MOUTHwHEART-SHAPED EYES
aCAT FACE WITH WRY SMILEaKISSING CAT FACE WITH CLOSED EYESaPOUTING CAT FACEaCRYING CAT FACE
aWEARY CAT FACEaSLIGHTLY FROWNING FACEjSMILING FACEaUPSIDE-DOWN FACEaFACE WITH ROLLING EYES
kNO GOOD GESTUREkOK GESTUREaPERSON BOWING DEEPLYaSEE-NO-EVIL MONKEYaHEAR-NO-EVIL MONKEY
aSPEAK-NO-EVIL MONKEYaHAPPY PERSON RAISING ONE HANDaPERSON RAISING BOTH HANDS IN CELEBRATION
hFROWNINGhWITH POUTING FACEmFOLDED HANDSaNORTH WEST POINTING LEAFaSOUTH WEST POINTING LEAF
aNORTH EAST POINTING LEAFaSOUTH EAST POINTING LEAFaTURNED NORTH WEST POINTING LEAF
hSOUTH WEST POINTING LEAFhNORTH EAST POINTING LEAFhSOUTH EAST POINTING LEAF
aNORTH WEST POINTING VINE LEAFaSOUTH WEST POINTING VINE LEAFaNORTH EAST POINTING VINE LEAF
aSOUTH EAST POINTING VINE LEAFaHEAVY NORTH WEST POINTING VINE LEAFgSOUTH WEST POINTING VINE LEAF
gNORTH EAST POINTING VINE LEAFgSOUTH EAST POINTING VINE LEAFaNORTH WEST POINTING BUD
aSOUTH WEST POINTING BUDaNORTH EAST POINTING BUDaSOUTH EAST POINTING BUD
aHEAVY NORTH WEST POINTING BUDgSOUTH WEST POINTING BUDgNORTH EAST POINTING BUD
gSOUTH EAST POINTING BUDbOLLOW QUILT SQUARE ORNAMENTzd IN BLACK SQUAREaSOLID QUILT SQUARE ORNAMENT
zc IN BLACK SQUAREaLEFTWARDS ROCKETaUPWARDS ROCKETaRIGHTWARDS ROCKETaDOWNWARDS ROCKET
aSCRIPT LIGATURE ET ORNAMENTaHEAVY SCRIPT LIGATURE ET ORNAMENTaLIGATURE OPEN ET ORNAMENT
aHEAVY LIGATURE OPEN ET ORNAMENTgAMPERSAND ORNAMENTaSWASH AMPERSAND ORNAMENT
bANS-SERIF HEAVY DOUBLE TURNED COMMA QUOTATION MARK ORNAMENTyCOMMA QUOTATION MARK ORNAMENT
rLOW DOUBLE COMMA QUOTATION MARK ORNAMENTaHEAVY INTERROBANG ORNAMENT
aSANS-SERIF INTERROBANG ORNAMENTaHEAVY SANS-SERIF INTERROBANG ORNAMENTaVERY HEAVY SOLIDUS
lREVERSE SOLIDUSaCHECKER BOARDaREVERSE CHECKER BOARDbOCKETaHELICOPTERaSTEAM LOCOMOTIVEaRAILWAY CAR
aHIGH-SPEED TRAINq WITH BULLET NOSEaTRAINaMETROaLIGHT RAILaSTATIONaTRAMe CARaBUSaONCOMING BUS
aTROLLEYBUSaBUS STOPaMINIBUSaAMBULANCEaFIRE ENGINEaPOLICE CARaONCOMING POLICE CARaTAXI
aONCOMING TAXIaAUTOMOBILEaONCOMING AUTOMOBILEaRECREATIONAL VEHICLEaDELIVERY TRUCK
aARTICULATED LORRYaTRACTORaMONORAILcUNTAIN RAILWAYaSUSPENSION RAILWAYaMOUNTAIN CABLEWAY
aAERIAL TRAMWAYaSHIPaROWBOATaSPEEDBOATaHORIZONTAL TRAFFIC LIGHTaVERTICAL TRAFFIC LIGHT
aCONSTRUCTION SIGNaPOLICE CARS REVOLVING LIGHTaTRIANGULAR FLAG ON POSTaDOORaNO ENTRY SIGN
aSMOKING SYMBOLaNO SMOKING SYMBOLaPUT LITTER IN ITS PLACE SYMBOLaDO NOT LITTER SYMBOL
aPOTABLE WATER SYMBOLaNON-POTABLE WATER SYMBOLaBICYCLEaNO BICYCLESaBICYCLISTaMOUNTAIN BICYCLIST
aPEDESTRIANaNO PEDESTRIANSaCHILDREN CROSSINGaMENS SYMBOLaWOMENS SYMBOLaRESTROOMaBABY SYMBOLaTOILET
aWATER CLOSETaSHOWERaBATHeTUBaPASSPORT CONTROLaCUSTOMSaBAGGAGE CLAIMaLEFT LUGGAGE
aTRIANGLE WITH ROUNDED CORNERSaPROHIBITED SIGNaCIRCLED INFORMATION SOURCEaBOYS SYMBOLaGIRLS SYMBOL
aCOUCH AND LAMPaSLEEPING ACCOMMODATIONbHOPPING BAGSaBELLHOP BELLcDaPLACE OF WORSHIPaOCTAGONAL SIGN
aSHOPPING TROLLEYbTUPAaPAGODAaHINDU TEMPLEbUTaELEVATOR<1F6DD>aPLAYGROUND SLIDEaWHEELaRING BUOY
aHAMMER AND WRENCHaSHIELDaOIL DRUMaMOTORWAYaRAILWAY TRACKaMOTOR BOATaUP-POINTING MILITARY AIRPLANE
mAIRPLANEmSMALL AIRPLANEaSMALL AIRPLANEaNORTHEAST-POINTING AIRPLANEaAIRPLANE DEPARTUREjARRIVING
<1F6F0>aSATELLITEaONCOMING FIRE ENGINEaDIESEL LOCOMOTIVEaPASSENGER SHIPaSCOOTERaMOTOR SCOOTER
aCANOEaSLEDaFLYING SAUCERaSKATEBOARDaAUTO RICKSHAWaPICKUP TRUCKaROLLER SKATE
<1F700>aALCHEMICAL SYMBOL FOR QUINTESSENCEwAIRwFIREwEARTHwWATERwAQUAFORTISzb REGIAzh-2zcVITAEzh-2
wVINEGARze-2zf3wSULFURwPHILOSOPHERS SULFURwBLACK SULFURwMERCURY SUBLIMATEzo-2zp3wCINNABARwSALT
wNITREwVITRIOLze-2wROCK SALTzg-2wGOLDwSILVERwIRON OREzf-2wCROCUS OF IRONwREGULUS OF IRON
wCOPPER OREwIRON-COPPER OREwSUBLIMATE OF COPPERwCROCUS OF COPPERzn-2xOPPER ANTIMONIATE
wSALT OF COPPER ANTIMONIATExUBLIMATE OF SALT OF COPPERwVERDIGRISwTIN OREwLEAD OREwANTIMONY ORE
wSUBLIMATE OF ANTIMONYxALT OF ANTIMONYxUBLIMATE OF SALT OF ANTIMONYwVINEGAR OF ANTIMONY
wREGULUS OF ANTIMONYzq-2zdSze-2zf3zf4wALKALIzd-2wMARCASITEwSAL-AMMONIACwARSENICwREALGARze-2
wAURIPIGMENTwBISMUTH OREwTARTARzd-2wQUICK LIMEwBORAXzc-2zd3wALUMwOILwSPIRITwTINCTUREwGUMwWAX
wPOWDERwCALXwTUTTYwCAPUT MORTUUMwSCEPTER OF JOVEwCADUCEUSwTRIDENTwSTARRED TRIDENTwLODESTONEwSOAP
wURINEwHORSE DUNGwASHESwPOT ASHESwBRICKwPOWDERED BRICKwAMALGAMwSTRATUM SUPER STRATUMzs-2
xUBLIMATIONwPRECIPITATEwDISTILLzSOLVEzf-2wPURIFYyTREFACTIONwCRUCIBLEzf-2zg3zg4zg5wALEMBIC
wBATH OF MARYzfVAPOURSwRETORTwHOURwNIGHTwDAY-NIGHTwMONTHwHALF DRAMzcOUNCE
<1F780>aBLACK LEFT-POINTING ISOSCELES RIGHT TRIANGLEgUP-POINTING ISOSCELES RIGHT TRIANGLE
gRIGHT-POINTING ISOSCELES RIGHT TRIANGLEgDOWN-POINTING ISOSCELES RIGHT TRIANGLE
gSLIGHTLY SMALL CIRCLEaMEDIUM BOLD WHITE CIRCLEaBOLD WHITE CIRCLEaHEAVY WHITE CIRCLE
aVERY HEAVY WHITE CIRCLEaEXTREMELY HEAVY WHITE CIRCLEaWHITE CIRCLE CONTAINING BLACK SMALL CIRCLE
aROUND TARGETaBLACK TINY SQUAREgSLIGHTLY SMALL SQUAREaLIGHT WHITE SQUAREaMEDIUM WHITE SQUARE
aBOLD WHITE SQUAREaHEAVY WHITE SQUAREaVERY HEAVY WHITE SQUAREaEXTREMELY HEAVY WHITE SQUARE
aWHITE SQUARE CONTAINING BLACK VERY SMALL SQUAREzfMEDIUM SQUAREaSQUARE TARGETaBLACK TINY DIAMOND
gVERY SMALL DIAMONDgMEDIUM SMALL DIAMONDaWHITE DIAMOND CONTAINING BLACK VERY SMALL DIAMOND
zgMEDIUM DIAMONDaDIAMOND TARGETaBLACK TINY LOZENGEgVERY SMALL LOZENGEgMEDIUM SMALL LOZENGE
aWHITE LOZENGE CONTAINING BLACK SMALL LOZENGEaTHIN GREEK CROSSaLIGHT GREEK CROSS
aMEDIUM GREEK CROSSaBOLD GREEK CROSSaVERY BOLD GREEK CROSSfHEAVY GREEK CROSS
aEXTREMELY HEAVY GREEK CROSSaTHIN SALTIREaLIGHT SALTIREaMEDIUM SALTIREaBOLD SALTIREaHEAVY SALTIRE
aVERY HEAVY SALTIREaEXTREMELY HEAVY SALTIREaLIGHT FIVE SPOKED ASTERISKaMEDIUM FIVE SPOKED ASTERISK
aBOLD FIVE SPOKED ASTERISKaHEAVY FIVE SPOKED ASTERISKaVERY HEAVY FIVE SPOKED ASTERISK
aEXTREMELY HEAVY FIVE SPOKED ASTERISKaLIGHT SIX SPOKED ASTERISKaMEDIUM SIX SPOKED ASTERISK
aBOLD SIX SPOKED ASTERISKaHEAVY SIX SPOKED ASTERISKaVERY HEAVY SIX SPOKED ASTERISK
aEXTREMELY HEAVY SIX SPOKED ASTERISKaLIGHT EIGHT SPOKED ASTERISKaMEDIUM EIGHT SPOKED ASTERISK
aBOLD EIGHT SPOKED ASTERISKaHEAVY EIGHT SPOKED ASTERISKaVERY HEAVY EIGHT SPOKED ASTERISK
aLIGHT THREE POINTED BLACK STARaMEDIUM THREE POINTED BLACK STARaTHREE POINTED BLACK STAR
aMEDIUM THREE POINTED PINWHEEL STARaLIGHT FOUR POINTED BLACK STARaMEDIUM FOUR POINTED BLACK STAR
aFOUR POINTED BLACK STARaMEDIUM FOUR POINTED PINWHEEL STAR
aREVERSE LIGHT FOUR POINTED PINWHEEL STARaLIGHT FIVE POINTED BLACK STAR
aHEAVY FIVE POINTED BLACK STARaMEDIUM SIX POINTED BLACK STARaHEAVY SIX POINTED BLACK STAR
aSIX POINTED PINWHEEL STARaMEDIUM EIGHT POINTED BLACK STARaHEAVY EIGHT POINTED BLACK STAR
aVERY HEAVY EIGHT POINTED BLACK STARaHEAVY EIGHT POINTED PINWHEEL STAR
aLIGHT TWELVE POINTED BLACK STARaHEAVY TWELVE POINTED BLACK STARvPINWHEEL STARaCIRCLED TRIANGLE
aNEGATIVE CIRCLED TRIANGLEaCIRCLED SQUAREaNEGATIVE CIRCLED SQUARE<1F7E0>aLARGE ORANGE CIRCLE
gYELLOW CIRCLEgGREEN CIRCLEgPURPLE CIRCLEgBROWN CIRCLEgRED SQUAREgBLUE SQUAREgORANGE SQUARE
gYELLOW SQUAREgGREEN SQUAREgPURPLE SQUAREgBROWN SQUARE<1F7F0>aHEAVY EQUALS SIGN
<1F800>aLEFTWARDS ARROW WITH SMALL TRIANGLE ARROWHEADaUPWARDS ARROW WITH SMALL TRIANGLE ARROWHEAD
aRIGHTWARDS ARROW WITH SMALL TRIANGLE ARROWHEADaDOWNWARDS ARROW WITH SMALL TRIANGLE ARROWHEAD
aLEFTWARDS ARROW WITH MEDIUM TRIANGLE ARROWHEADaUPWARDS ARROW WITH MEDIUM TRIANGLE ARROWHEAD
aRIGHTWARDS ARROW WITH MEDIUM TRIANGLE ARROWHEADaDOWNWARDS ARROW WITH MEDIUM TRIANGLE ARROWHEAD
aLEFTWARDS ARROW WITH LARGE TRIANGLE ARROWHEADaUPWARDS ARROW WITH LARGE TRIANGLE ARROWHEAD
aRIGHTWARDS ARROW WITH LARGE TRIANGLE ARROWHEADaDOWNWARDS ARROW WITH LARGE TRIANGLE ARROWHEAD
<1F810>aLEFTWARDS ARROW WITH SMALL EQUILATERAL ARROWHEAD
aUPWARDS ARROW WITH SMALL EQUILATERAL ARROWHEADaRIGHTWARDS ARROW WITH SMALL EQUILATERAL ARROWHEAD
aDOWNWARDS ARROW WITH SMALL EQUILATERAL ARROWHEADaLEFTWARDS ARROW WITH EQUILATERAL ARROWHEAD
aUPWARDS ARROW WITH EQUILATERAL ARROWHEADaRIGHTWARDS ARROW WITH EQUILATERAL ARROWHEAD
aDOWNWARDS ARROW WITH EQUILATERAL ARROWHEADaHEAVY LEFTWARDS ARROW WITH EQUILATERAL ARROWHEAD
gUPWARDS ARROW WITH EQUILATERAL ARROWHEADgRIGHTWARDS ARROW WITH EQUILATERAL ARROWHEAD
gDOWNWARDS ARROW WITH EQUILATERAL ARROWHEADgLEFTWARDS ARROW WITH LARGE EQUILATERAL ARROWHEAD
gUPWARDS ARROW WITH LARGE EQUILATERAL ARROWHEADgRIGHTWARDS ARROW WITH LARGE EQUILATERAL ARROWHEAD
gDOWNWARDS ARROW WITH LARGE EQUILATERAL ARROWHEAD
aLEFTWARDS TRIANGLE-HEADED ARROW WITH NARROW SHAFTaUPWARDS TRIANGLE-HEADED ARROW WITH NARROW SHAFT
aRIGHTWARDS TRIANGLE-HEADED ARROW WITH NARROW SHAFT
aDOWNWARDS TRIANGLE-HEADED ARROW WITH NARROW SHAFT
aLEFTWARDS TRIANGLE-HEADED ARROW WITH MEDIUM SHAFTaUPWARDS TRIANGLE-HEADED ARROW WITH MEDIUM SHAFT
aRIGHTWARDS TRIANGLE-HEADED ARROW WITH MEDIUM SHAFT
aDOWNWARDS TRIANGLE-HEADED ARROW WITH MEDIUM SHAFTaLEFTWARDS TRIANGLE-HEADED ARROW WITH BOLD SHAFT
aUPWARDS TRIANGLE-HEADED ARROW WITH BOLD SHAFTaRIGHTWARDS TRIANGLE-HEADED ARROW WITH BOLD SHAFT
aDOWNWARDS TRIANGLE-HEADED ARROW WITH BOLD SHAFTaLEFTWARDS TRIANGLE-HEADED ARROW WITH HEAVY SHAFT
aUPWARDS TRIANGLE-HEADED ARROW WITH HEAVY SHAFTaRIGHTWARDS TRIANGLE-HEADED ARROW WITH HEAVY SHAFT
aDOWNWARDS TRIANGLE-HEADED ARROW WITH HEAVY SHAFT
aLEFTWARDS TRIANGLE-HEADED ARROW WITH VERY HEAVY SHAFT
aUPWARDS TRIANGLE-HEADED ARROW WITH VERY HEAVY SHAFT
aRIGHTWARDS TRIANGLE-HEADED ARROW WITH VERY HEAVY SHAFT
aDOWNWARDS TRIANGLE-HEADED ARROW WITH VERY HEAVY SHAFTaLEFTWARDS FINGER-POST ARROW
aUPWARDS FINGER-POST ARROWaRIGHTWARDS FINGER-POST ARROWaDOWNWARDS FINGER-POST ARROW
aLEFTWARDS SQUARED ARROWaUPWARDS SQUARED ARROWaRIGHTWARDS SQUARED ARROWaDOWNWARDS SQUARED ARROW
aLEFTWARDS COMPRESSED ARROWaUPWARDS COMPRESSED ARROWaRIGHTWARDS COMPRESSED ARROW
aDOWNWARDS COMPRESSED ARROWaLEFTWARDS HEAVY COMPRESSED ARROWaUPWARDS HEAVY COMPRESSED ARROW
aRIGHTWARDS HEAVY COMPRESSED ARROWaDOWNWARDS HEAVY COMPRESSED ARROWaLEFTWARDS HEAVY ARROW
aUPWARDS HEAVY ARROWaRIGHTWARDS HEAVY ARROWaDOWNWARDS HEAVY ARROW
<1F850>aLEFTWARDS SANS-SERIF ARROWaUPWARDS SANS-SERIF ARROWaRIGHTWARDS SANS-SERIF ARROW
aDOWNWARDS SANS-SERIF ARROWaNORTH WEST SANS-SERIF ARROWgEAST SANS-SERIF ARROW
aSOUTH EAST SANS-SERIF ARROWgWEST SANS-SERIF ARROWaLEFT RIGHT SANS-SERIF ARROW
aUP DOWN SANS-SERIF ARROW<1F860>aWIDE-HEADED LEFTWARDS LIGHT BARB ARROWmUPWARDS LIGHT BARB ARROW
mRIGHTWARDS LIGHT BARB ARROWmDOWNWARDS LIGHT BARB ARROWmNORTH WEST LIGHT BARB ARROW
sEAST LIGHT BARB ARROWmSOUTH EAST LIGHT BARB ARROWsWEST LIGHT BARB ARROWmLEFTWARDS BARB ARROW
mUPWARDS BARB ARROWmRIGHTWARDS BARB ARROWmDOWNWARDS BARB ARROWmNORTH WEST BARB ARROW
sEAST BARB ARROWmSOUTH EAST BARB ARROWsWEST BARB ARROWmLEFTWARDS MEDIUM BARB ARROW
mUPWARDS MEDIUM BARB ARROWmRIGHTWARDS MEDIUM BARB ARROWmDOWNWARDS MEDIUM BARB ARROW
mNORTH WEST MEDIUM BARB ARROWsEAST MEDIUM BARB ARROWmSOUTH EAST MEDIUM BARB ARROW
sWEST MEDIUM BARB ARROWmLEFTWARDS HEAVY BARB ARROWmUPWARDS HEAVY BARB ARROW
mRIGHTWARDS HEAVY BARB ARROWmDOWNWARDS HEAVY BARB ARROWmNORTH WEST HEAVY BARB ARROW
sEAST HEAVY BARB ARROWmSOUTH EAST HEAVY BARB ARROWsWEST HEAVY BARB ARROW
mLEFTWARDS VERY HEAVY BARB ARROWmUPWARDS VERY HEAVY BARB ARROWmRIGHTWARDS VERY HEAVY BARB ARROW
mDOWNWARDS VERY HEAVY BARB ARROWmNORTH WEST VERY HEAVY BARB ARROWsEAST VERY HEAVY BARB ARROW
mSOUTH EAST VERY HEAVY BARB ARROWsWEST VERY HEAVY BARB ARROW<1F890>aLEFTWARDS TRIANGLE ARROWHEAD
aUPWARDS TRIANGLE ARROWHEADaRIGHTWARDS TRIANGLE ARROWHEADaDOWNWARDS TRIANGLE ARROWHEAD
aLEFTWARDS WHITE ARROW WITHIN TRIANGLE ARROWHEADaUPWARDS WHITE ARROW WITHIN TRIANGLE ARROWHEAD
aRIGHTWARDS WHITE ARROW WITHIN TRIANGLE ARROWHEADaDOWNWARDS WHITE ARROW WITHIN TRIANGLE ARROWHEAD
aLEFTWARDS ARROW WITH NOTCHED TAILaUPWARDS ARROW WITH NOTCHED TAIL
aRIGHTWARDS ARROW WITH NOTCHED TAILaDOWNWARDS ARROW WITH NOTCHED TAILaHEAVY ARROW SHAFT WIDTH ONE
yTWO THIRDSyONE HALFzdTHIRDaLEFTWARDS BOTTOM-SHADED WHITE ARROW
aRIGHTWARDS BOTTOM SHADED WHITE ARROWaLEFTWARDS TOP SHADED WHITE ARROW
aRIGHTWARDS TOP SHADED WHITE ARROWaLEFTWARDS LEFT-SHADED WHITE ARROW
aRIGHTWARDS RIGHT-SHADED WHITE ARROWaLEFTWARDS RIGHT-SHADED WHITE ARROW
aRIGHTWARDS LEFT-SHADED WHITE ARROWaLEFTWARDS BACK-TILTED SHADOWED WHITE ARROW
aRIGHTWARDS BACK-TILTED SHADOWED WHITE ARROWaLEFTWARDS FRONT-TILTED SHADOWED WHITE ARROW
aRIGHTWARDS FRONT-TILTED SHADOWED WHITE ARROWaWHITE ARROW SHAFT WIDTH ONEyTWO THIRDS
<1F8B0>aARROW POINTING UPWARDS THEN NORTH WESTpRIGHTWARDS THEN CURVING SOUTH WEST
<1F900>aCIRCLED CROSS FORMEE WITH FOUR DOTSzbTWO DOTStEaLEFT HALF CIRCLE WITH FOUR DOTSwTHREE DOTS
xWO DOTSwDOTpEaDOWNWARD FACING HOOKqNOTCHED HOOKqHOOK WITH DOTqNOTCHED HOOK WITH DOT
aPINCHED FINGERSaWHITE HEARTaBROWN HEARTaPINCHING HANDaZIPPER-MOUTH FACEaMONEY-MOUTH FACE
aFACE WITH THERMOMETERaNERD FACEaTHINKING FACEaFACE WITH HEAD-BANDAGEaROBOT FACEaHUGGING FACE
aSIGN OF THE HORNSaCALL ME HANDaRAISED BACK OF HANDaLEFT-FACING FISTaRIGHT-FACING FISTaHANDSHAKE
e WITH INDEX AND MIDDLE FINGERS CROSSEDaI LOVE YOU HAND SIGNaFACE WITH COWBOY HATaCLOWN FACE
aNAUSEATED FACEaROLLING ON THE FLOOR LAUGHINGaDROOLING FACEaLYING FACEaFACE PALMaSNEEZING FACE
aFACE WITH ONE EYEBROW RAISEDaGRINNING FACE WITH STAR EYEStONE LARGE AND ONE SMALL EYE
aFACE WITH FINGER COVERING CLOSED LIPSaSERIOUS FACE WITH SYMBOLS COVERING MOUTH
bMILING FACE WITH SMILING EYES AND HAND COVERING MOUTHaFACE WITH OPEN MOUTH VOMITING
aSHOCKED FACE WITH EXPLODING HEADaPREGNANT WOMANaBREAST-FEEDINGaPALMS UP TOGETHERaSELFIEaPRINCE
aMAN IN TUXEDObOTHER CHRISTMASaSHRUGaPERSON DOING CARTWHEELaJUGGLINGaFENCERaMODERN PENTATHLON
aWRESTLERSbATER POLOaHANDBALLaDIVING MASKaWILTED FLOWERaDRUM WITH DRUMSTICKSaCLINKING GLASSES
aTUMBLER GLASSaSPOONaGOAL NETaRIFLEaFIRST PLACE MEDALaSECOND PLACE MEDALaTHIRD PLACE MEDAL
aBOXING GLOVEaMARTIAL ARTS UNIFORMaCURLING STONEaLACROSSE STICK AND BALLaSOFTBALLaFLYING DISC
aCROISSANTaAVOCADOaCUCUMBERaBACONaPOTATOaCARROTaBAGUETTE BREADaGREEN SALADaSHALLOW PAN OF FOOD
bTUFFED FLATBREADaEGGaGLASS OF MILKaPEANUTSaKIWIFRUITaPANCAKESaDUMPLINGaFORTUNE COOKIEaTAKEOUT BOX
aCHOPSTICKSaBOWL WITH SPOONaCUP WITH STRAWbOCONUTaBROCCOLIaPIEbRETZELaCUT OF MEATaSANDWICH
aCANNED FOODaLEAFY GREENaMANGObOON CAKEaBAGELaSMILING FACE WITH SMILING EYES AND THREE HEARTS
aYAWNING FACEaSMILING FACE WITH TEARaFACE WITH PARTY HORN AND PARTY HATkUNEVEN EYES AND WAVY MOUTH
aOVERHEATED FACEaFREEZING FACEaNINJAaDISGUISED FACEaFACE HOLDING BACK TEARSfWITH PLEADING EYES
aSARIaLAB COATaGOGGLESaHIKING BOOTaFLAT SHOEaCRABaLION FACEaSCORPIONaTURKEYaUNICORN FACEaEAGLE
aDUCKaBATaSHARKaOWLaFOX FACEaBUTTERFLYaDEERaGORILLAaLIZARDaRHINOCEROSaSHRIMPbQUIDaGIRAFFE FACE
aZEBRA FACEaHEDGEHOGaSAUROPODaT-REXaCRICKETaKANGAROOaLLAMAaPEACOCKaHIPPOPOTAMUSaPARROTaRACCOON
aLOBSTERaMOSQUITObICROBEaBADGERaSWANaMAMMOTHaDODOaSLOTHaOTTERbRANGUTANaSKUNKaFLAMINGOaOYSTER
aBEAVERbISONaSEALaGUIDE DOGaPROBING CANEaEMOJI COMPONENT RED HAIRqCURLY HAIRqBALDqWHITE HAIRaBONE
aLEGaFOOTaTOOTHaSUPERHEROfVILLAINbAFETY VESTaEAR WITH HEARING AIDaMOTORIZED WHEELCHAIR
bANUAL WHEELCHAIRbECHANICAL ARMlLEGaCHEESE WEDGEbUPCAKEaSALT SHAKERaBEVERAGE BOXaGARLICaONION
aFALAFELaWAFFLEaBUTTERaMATE DRINKaICE CUBEaBUBBLE TEAaTROLLaSTANDING PERSONaKNEELING PERSON
aDEAF PERSONaFACE WITH MONOCLEaADULTaCHILDaOLDER ADULTaBEARDED PERSONaPERSON WITH HEADSCARF
hIN STEAMY ROOMhCLIMBINGhIN LOTUS POSITIONaMAGEaFAIRYaVAMPIREaMERPERSONaELFaGENIEaZOMBIEaBRAIN
aORANGE HEARTaBILLED CAPaSCARFaGLOVESaCOATaSOCKSaRED GIFT ENVELOPEaFIRECRACKERaJIGSAW PUZZLE PIECE
aTEST TUBEaPETRI DISHaDNA DOUBLE HELIXaCOMPASSaABACUSaFIRE EXTINGUISHERaTOOLBOXaBRICKaMAGNET
aLUGGAGEbOTION BOTTLEaSPOOL OF THREADaBALL OF YARNaSAFETY PINaTEDDY BEARaBROOMbASKETaROLL OF PAPER
aBAR OF SOAPaSPONGEaRECEIPTaNAZAR AMULETbEUTRAL CHESS KINGoQUEENoROOKoBISHOPoKNIGHToPAWN
aWHITE CHESS KNIGHT ROTATED FORTY-FIVE DEGREESaBLACK CHESS KNIGHT ROTATED FORTY-FIVE DEGREES
aNEUTRAL CHESS KNIGHT ROTATED FORTY-FIVE DEGREESaWHITE CHESS KING ROTATED NINETY DEGREES
mQUEEN ROTATED NINETY DEGREESmROOK ROTATED NINETY DEGREESmBISHOP ROTATED NINETY DEGREES
mKNIGHT ROTATED NINETY DEGREESmPAWN ROTATED NINETY DEGREESaBLACK CHESS KING ROTATED NINETY DEGREES
mQUEEN ROTATED NINETY DEGREESmROOK ROTATED NINETY DEGREESmBISHOP ROTATED NINETY DEGREES
mKNIGHT ROTATED NINETY DEGREESmPAWN ROTATED NINETY DEGREES
aNEUTRAL CHESS KING ROTATED NINETY DEGREESoQUEEN ROTATED NINETY DEGREES
oROOK ROTATED NINETY DEGREESoBISHOP ROTATED NINETY DEGREESoKNIGHT ROTATED NINETY DEGREES
oPAWN ROTATED NINETY DEGREESaWHITE CHESS KNIGHT ROTATED ONE HUNDRED THIRTY-FIVE DEGREES
aBLACK CHESS KNIGHT ROTATED ONE HUNDRED THIRTY-FIVE DEGREES
aNEUTRAL CHESS KNIGHT ROTATED ONE HUNDRED THIRTY-FIVE DEGREESaWHITE CHESS TURNED KINGtQUEENtROOK
tBISHOPtKNIGHTtPAWNaBLACK CHESS TURNED KINGtQUEENtROOKtBISHOPtKNIGHTtPAWN
aNEUTRAL CHESS TURNED KINGvQUEENvROOKvBISHOPvKNIGHTvPAWN
aWHITE CHESS KNIGHT ROTATED TWO HUNDRED TWENTY-FIVE DEGREES
aBLACK CHESS KNIGHT ROTATED TWO HUNDRED TWENTY-FIVE DEGREES
aNEUTRAL CHESS KNIGHT ROTATED TWO HUNDRED TWENTY-FIVE DEGREES
aWHITE CHESS KING ROTATED TWO HUNDRED SEVENTY DEGREESmQUEEN ROTATED TWO HUNDRED SEVENTY DEGREES
mROOK ROTATED TWO HUNDRED SEVENTY DEGREESmBISHOP ROTATED TWO HUNDRED SEVENTY DEGREES
mKNIGHT ROTATED TWO HUNDRED SEVENTY DEGREESmPAWN ROTATED TWO HUNDRED SEVENTY DEGREES
aBLACK CHESS KING ROTATED TWO HUNDRED SEVENTY DEGREESmQUEEN ROTATED TWO HUNDRED SEVENTY DEGREES
mROOK ROTATED TWO HUNDRED SEVENTY DEGREESmBISHOP ROTATED TWO HUNDRED SEVENTY DEGREES
mKNIGHT ROTATED TWO HUNDRED SEVENTY DEGREESmPAWN ROTATED TWO HUNDRED SEVENTY DEGREES
aNEUTRAL CHESS KING ROTATED TWO HUNDRED SEVENTY DEGREESoQUEEN ROTATED TWO HUNDRED SEVENTY DEGREES
oROOK ROTATED TWO HUNDRED SEVENTY DEGREESoBISHOP ROTATED TWO HUNDRED SEVENTY DEGREES
oKNIGHT ROTATED TWO HUNDRED SEVENTY DEGREESoPAWN ROTATED TWO HUNDRED SEVENTY DEGREES
aWHITE CHESS KNIGHT ROTATED THREE HUNDRED FIFTEEN DEGREES
aBLACK CHESS KNIGHT ROTATED THREE HUNDRED FIFTEEN DEGREES
aNEUTRAL CHESS KNIGHT ROTATED THREE HUNDRED FIFTEEN DEGREESaWHITE CHESS EQUIHOPPER
aBLACK CHESS EQUIHOPPERaNEUTRAL CHESS EQUIHOPPERaWHITE CHESS EQUIHOPPER ROTATED NINETY DEGREES
aBLACK CHESS EQUIHOPPER ROTATED NINETY DEGREESaNEUTRAL CHESS EQUIHOPPER ROTATED NINETY DEGREES
aWHITE CHESS KNIGHT-QUEENtROOKtBISHOPaBLACK CHESS KNIGHT-QUEENtROOKtBISHOP
<1FA60>aXIANGQI RED GENERALmMANDARINmELEPHANTmHORSEmCHARIOTnANNONmSOLDIERiBLACK GENERALoMANDARIN
oELEPHANToHORSEoCHARIOTpANNONoSOLDIER<1FA70>aBALLET SHOESaONE-PIECE SWIMSUITaBRIEFSaSHORTS
aTHONG SANDAL<1FA78>aDROP OF BLOODaADHESIVE BANDAGEaSTETHOSCOPEaX-RAYaCRUTCH<1FA80>aYO-YOaKITE
aPARACHUTEaBOOMERANGaMAGIC WANDaPINATAaNESTING DOLLS<1FA90>aRINGED PLANETaCHAIRaRAZORaAXE
aDIYA LAMPaBANJOaMILITARY HELMETaACCORDIONaLONG DRUMaCOINbARPENTRY SAWaSCREWDRIVERaLADDERaHOOK
aMIRRORaWINDOWaPLUNGERaSEWING NEEDLEaKNOTaBUCKETaMOUSE TRAPaTOOTHBRUSHaHEADSTONEaPLACARDaROCK
aMIRROR BALLaIDENTIFICATION CARDaLOW BATTERYaHAMSA<1FAB0>aFLYaWORMaBEETLEaCOCKROACHaPOTTED PLANT
aWOODaFEATHERaLOTUSaCORALaEMPTY NESTaNEST WITH EGGS<1FAC0>aANATOMICAL HEARTaLUNGSaPEOPLE HUGGING
bREGNANT MANjPERSONbERSON WITH CROWN<1FAD0>aBLUEBERRIESbELL PEPPERaOLIVEaFLATBREADaTAMALEaFONDUE
aTEAPOTaPOURING LIQUIDaBEANSaJAR<1FAE0>aMELTING FACEaSALUTING FACE
aFACE WITH OPEN EYES AND HAND OVER MOUTHkPEEKING EYEkDIAGONAL MOUTHaDOTTED LINE FACEaBITING LIP
bUBBLES<1FAF0>aHAND WITH INDEX FINGER AND THUMB CROSSEDaRIGHTWARDS HANDaLEFTWARDS HAND
aPALM DOWN HANDfUP HANDaINDEX POINTING AT THE VIEWERaHEART HANDS<1FB00>aBLOCK SEXTANT-1o2o12o3o13
o23o123o4o14o24o124o34o134o234o1234o5o15o25o125o35o235o1235o45o145o245o1245o345o1345o2345o12345o6
o16o26o126o36o136o236o1236o46o146p246o346o1346o2346o12346o56o156o256o1256o356o1356o2356o12356o456
o1456o2456o12456o3456o13456o23456aLOWER LEFT BLOCK DIAGONAL LOWER MIDDLE LEFT TO LOWER CENTRE
zzdRIGHTzbUPPER MIDDLE LEFT TO LOWER CENTREzzdRIGHTzhLEFT TO LOWER CENTRE
gRIGHT BLOCK DIAGONAL UPPER MIDDLE LEFT TO UPPER CENTREzzeRIGHTzcLOWER MIDDLE LEFT TO UPPER CENTRE
zzeRIGHTziLEFT TO UPPER CENTREziMIDDLE LEFT TO UPPER MIDDLE RIGHTziCENTRE TO LOWER MIDDLE RIGHT
ziLEFT TO LOWER MIDDLE RIGHTziCENTRE TO UPPER MIDDLE RIGHTziLEFT TO UPPER MIDDLE RIGHT
ziCENTRE TO UPPER RIGHTgLEFT BLOCK DIAGONAL UPPER CENTRE TO UPPER MIDDLE RIGHT
zhLEFT TO UPPER MIDDLE RIGHTzhCENTRE TO LOWER MIDDLE RIGHTzhLEFT TO LOWER MIDDLE RIGHT
zhCENTRE TO LOWER RIGHTzhMIDDLE LEFT TO LOWER MIDDLE RIGHT
aUPPER RIGHT BLOCK DIAGONAL LOWER MIDDLE LEFT TO LOWER CENTREzzeRIGHT
zcUPPER MIDDLE LEFT TO LOWER CENTREzzeRIGHTziLEFT TO LOWER CENTRE
gLEFT BLOCK DIAGONAL UPPER MIDDLE LEFT TO UPPER CENTREzzdRIGHTzbLOWER MIDDLE LEFT TO UPPER CENTRE
zzdRIGHTzhLEFT TO UPPER CENTREzhMIDDLE LEFT TO UPPER MIDDLE RIGHTzhCENTRE TO LOWER MIDDLE RIGHT
zhLEFT TO LOWER MIDDLE RIGHTzhCENTRE TO UPPER MIDDLE RIGHTzhLEFT TO UPPER MIDDLE RIGHT
zhCENTRE TO UPPER RIGHTgRIGHT BLOCK DIAGONAL UPPER CENTRE TO UPPER MIDDLE RIGHT
ziLEFT TO UPPER MIDDLE RIGHTziCENTRE TO LOWER MIDDLE RIGHTziLEFT TO LOWER MIDDLE RIGHT
ziCENTRE TO LOWER RIGHTziMIDDLE LEFT TO LOWER MIDDLE RIGHT
gAND RIGHT AND LOWER TRIANGULAR THREE QUARTERS BLOCK
aLEFT AND LOWER AND RIGHT TRIANGULAR THREE QUARTERS BLOCK
aUPPER AND LEFT AND LOWER TRIANGULAR THREE QUARTERS BLOCK
aLEFT AND UPPER AND RIGHT TRIANGULAR THREE QUARTERS BLOCKfTRIANGULAR ONE QUARTER BLOCK
aUPPER TRIANGULAR ONE QUARTER BLOCKaRIGHT TRIANGULAR ONE QUARTER BLOCK
aLOWER TRIANGULAR ONE QUARTER BLOCKaVERTICAL ONE EIGHTH BLOCK-2zb3zb4zb5zb6zb7
aHORIZONTAL ONE EIGHTH BLOCK-2zd3zd4zd5zd6zd7aLEFT AND LOWER ONE EIGHTH BLOCK
jUPPER ONE EIGHTH BLOCKaRIGHT AND UPPER ONE EIGHTH BLOCKkLOWER ONE EIGHTH BLOCK
aUPPER AND LOWER ONE EIGHTH BLOCKaHORIZONTAL ONE EIGHTH BLOCK-1358aUPPER ONE QUARTER BLOCK
gTHREE EIGHTHS BLOCKgFIVE EIGHTHS BLOCKgTHREE QUARTERS BLOCKgSEVEN EIGHTHS BLOCK
aRIGHT ONE QUARTER BLOCKgTHREE EIGHTHS BLOCKgFIVE EIGHTHS BLOCKgTHREE QUARTERS BLOCK
gSEVEN EIGHTHS BLOCKaLEFT HALF MEDIUM SHADEaRIGHT HALF MEDIUM SHADEaUPPER HALF MEDIUM SHADE
aLOWER HALF MEDIUM SHADEaINVERSE MEDIUM SHADEaUPPER HALF BLOCK AND LOWER HALF INVERSE MEDIUM SHADE
lINVERSE MEDIUM SHADE AND LOWER HALF BLOCK
<1FB94>aLEFT HALF INVERSE MEDIUM SHADE AND RIGHT HALF BLOCKaCHECKER BOARD FILL
aINVERSE CHECKER BOARD FILLaHEAVY HORIZONTAL FILLaUPPER LEFT TO LOWER RIGHT FILL
gRIGHT TO LOWER LEFT FILLgAND LOWER TRIANGULAR HALF BLOCKaLEFT AND RIGHT TRIANGULAR HALF BLOCK
aUPPER LEFT TRIANGULAR MEDIUM SHADEgRIGHT TRIANGULAR MEDIUM SHADE
aLOWER RIGHT TRIANGULAR MEDIUM SHADEgLEFT TRIANGULAR MEDIUM SHADE
aBOX DRAWINGS LIGHT DIAGONAL UPPER CENTRE TO MIDDLE LEFTzzbRIGHTzdMIDDLE LEFT TO LOWER CENTRE
zkRIGHT TO LOWER CENTREzdUPPER CENTRE TO MIDDLE LEFT TO LOWER CENTREzzbRIGHT TO LOWER CENTRE
zdMIDDLE LEFT TO LOWER CENTRE TO MIDDLE RIGHTzsUPPER CENTRE TO MIDDLE RIGHT
zdUPPER CENTRE TO MIDDLE LEFT AND MIDDLE RIGHT TO LOWER CENTRE
zzbRIGHT AND MIDDLE LEFT TO LOWER CENTREzzhTO LOWER CENTRE TO MIDDLE LEFT
zzbLEFT TO LOWER CENTRE TO MIDDLE RIGHT
zdMIDDLE LEFT TO UPPER CENTRE TO MIDDLE RIGHT TO LOWER CENTRE
zkRIGHT TO UPPER CENTRE TO MIDDLE LEFT TO LOWER CENTREzdDIAMONDtHORIZONTAL WITH VERTICAL STROKE
aARROWHEAD-SHAPED POINTERaINVERSE CHECK MARKaLEFT HALF RUNNING MANaRIGHT HALF RUNNING MAN
aINVERSE DOWNWARDS ARROW WITH TIP LEFTWARDSaLEFTWARDS ARROW AND UPPER AND LOWER ONE EIGHTH BLOCK
aRIGHTWARDS ARROW AND UPPER AND LOWER ONE EIGHTH BLOCKaDOWNWARDS ARROW AND RIGHT ONE EIGHTH BLOCK
aUPWARDS ARROW AND RIGHT ONE EIGHTH BLOCKaLEFT HALF FOLDERaRIGHT HALF FOLDERaVOIDED GREEK CROSS
aRIGHT OPEN SQUARED DOTaNEGATIVE DIAGONAL CROSSsMIDDLE RIGHT TO LOWER CENTREsDIAMOND
aWHITE HEAVY SALTIRE WITH ROUNDED CORNERSaLEFT THIRD WHITE RIGHT POINTING INDEX
aMIDDLE THIRD WHITE RIGHT POINTING INDEXaRIGHT THIRD WHITE RIGHT POINTING INDEX
aNEGATIVE SQUARED QUESTION MARKaSTICK FIGUREm WITH ARMS RAISEDnLEANING LEFTvRIGHTnWITH DRESS
aWHITE UP-POINTING CHEVRON<1FBF0>aSEGMENTED DIGIT ZEROqONEqTWOrHREEqFOURrIVEqSIXrEVENqEIGHTqNINE
<2F800>aCJK COMPATIBILITY IDEOGRAPH-2F800zh1zh2zh3zh4zh5zh6zh7zh8zh9zhAzhBzhCzhDzhEzhFzg10zh1zh2
zh3zh4zh5zh6zh7zh8zh9zhAzhBzhCzhDzhEzhFzg20zh1zh2zh3zh4zh5zh6zh7zh8zh9zhAzhBzhCzhDzhEzhFzg30zh1zh2
zh3zh4zh5zh6zh7zh8zh9zhAzhBzhCzhDzhEzhFzg40zh1zh2zh3zh4zh5zh6zh7zh8zh9zhAzhBzhCzhDzhEzhFzg50zh1zh2
zh3zh4zh5zh6zh7zh8zh9zhAzhBzhCzhDzhEzhFzg60zh1zh2zh3zh4zh5zh6zh7zh8zh9zhAzhBzhCzhDzhEzhFzg70zh1zh2
zh3zh4zh5zh6zh7zh8zh9zhAzhBzhCzhDzhEzhFzg80zh1zh2zh3zh4zh5zh6zh7zh8zh9zhAzhBzhCzhDzhEzhFzg90zh1zh2
zh3zh4zh5zh6zh7zh8zh9zhAzhBzhCzhDzhEzhFzgA0zh1zh2zh3zh4zh5zh6zh7zh8zh9zhAzhBzhCzhDzhEzhFzgB0zh1zh2
zh3zh4zh5zh6zh7zh8zh9zhAzhBzhCzhDzhEzhFzgC0zh1zh2zh3zh4zh5zh6zh7zh8zh9zhAzhBzhCzhDzhEzhFzgD0zh1zh2
zh3zh4zh5zh6zh7zh8zh9zhAzhBzhCzhDzhEzhFzgE0zh1zh2zh3zh4zh5zh6zh7zh8zh9zhAzhBzhCzhDzhEzhFzgF0zh1zh2
zh3zh4zh5zh6zh7zh8zh9zhAzhBzhCzhDzhEzhFzf900zh1zh2zh3zh4zh5zh6zh7zh8zh9zhAzhBzhCzhDzhEzhFzg10zh1
zh2zh3zh4zh5zh6zh7zh8zh9zhAzhBzhCzhDzhEzhFzg20zh1zh2zh3zh4zh5zh6zh7zh8zh9zhAzhBzhCzhDzhEzhFzg30zh1
zh2zh3zh4zh5zh6zh7zh8zh9zhAzhBzhCzhDzhEzhFzg40zh1zh2zh3zh4zh5zh6zh7zh8zh9zhAzhBzhCzhDzhEzhFzg50zh1
zh2zh3zh4zh5zh6zh7zh8zh9zhAzhBzhCzhDzhEzhFzg60zh1zh2zh3zh4zh5zh6zh7zh8zh9zhAzhBzhCzhDzhEzhFzg70zh1
zh2zh3zh4zh5zh6zh7zh8zh9zhAzhBzhCzhDzhEzhFzg80zh1zh2zh3zh4zh5zh6zh7zh8zh9zhAzhBzhCzhDzhEzhFzg90zh1
zh2zh3zh4zh5zh6zh7zh8zh9zhAzhBzhCzhDzhEzhFzgA0zh1zh2zh3zh4zh5zh6zh7zh8zh9zhAzhBzhCzhDzhEzhFzgB0zh1
zh2zh3zh4zh5zh6zh7zh8zh9zhAzhBzhCzhDzhEzhFzgC0zh1zh2zh3zh4zh5zh6zh7zh8zh9zhAzhBzhCzhDzhEzhFzgD0zh1
zh2zh3zh4zh5zh6zh7zh8zh9zhAzhBzhCzhDzhEzhFzgE0zh1zh2zh3zh4zh5zh6zh7zh8zh9zhAzhBzhCzhDzhEzhFzgF0zh1
zh2zh3zh4zh5zh6zh7zh8zh9zhAzhBzhCzhDzhEzhFzfA00zh1zh2zh3zh4zh5zh6zh7zh8zh9zhAzhBzhCzhDzhEzhFzg10
zh1zh2zh3zh4zh5zh6zh7zh8zh9zhAzhBzhCzhD<E0001>aLANGUAGE TAG<E0020>aTAG SPACEeEXCLAMATION MARK
eQUOTATION MARKeNUMBER SIGNeDOLLAR SIGNePERCENT SIGNeAMPERSANDfPOSTROPHEeLEFT PARENTHESIS
eRIGHT PARENTHESISeASTERISKePLUS SIGNeCOMMAeHYPHEN-MINUSeFULL STOPeSOLIDUSeDIGIT ZEROkONEkTWOlHREE
kFOURlIVEkSIXlEVENkEIGHTkNINEeCOLONeSEMICOLONeLESS-THAN SIGNeEQUALS SIGNeGREATER-THAN SIGN
eQUESTION MARKeCOMMERCIAL ATeLATIN CAPITAL LETTER AzBzCzDzEzFzGzHzIzJzKzLzMzNzOzPzQzRzSzTzUzVzWzX
zYzZfEFT SQUARE BRACKETeREVERSE SOLIDUSfIGHT SQUARE BRACKETeCIRCUMFLEX ACCENTeLOW LINE
eGRAVE ACCENTeLATIN SMALL LETTER AxBxCxDxExFxGxHxIxJxKxLxMxNxOxPxQxRxSxTxUxVxWxXxYxZ
fEFT CURLY BRACKETeVERTICAL LINEeRIGHT CURLY BRACKETeTILDEaCANCEL TAG<E0100>aVARIATION SELECTOR-17
u8u9t20u1u2u3u4u5u6u7u8u9t30u1u2u3u4u5u6u7u8u9t40u1u2u3u4u5u6u7u8u9t50u1u2u3u4u5u6u7u8u9t60u1u2u3
u4u5u6u7u8u9t70u1u2u3u4u5u6u7u8u9t80u1u2u3u4u5u6u7u8u9t90u1u2u3u4u5u6u7u8u9t100v1v2v3v4v5v6v7v8v9
u10v1v2v3v4v5v6v7v8v9u20v1v2v3v4v5v6v7v8v9u30v1v2v3v4v5v6v7v8v9u40v1v2v3v4v5v6v7v8v9u50v1v2v3v4v5
v6v7v8v9u60v1v2v3v4v5v6v7v8v9u70v1v2v3v4v5v6v7v8v9u80v1v2v3v4v5v6v7v8v9u90v1v2v3v4v5v6v7v8v9t200v1
v2v3v4v5v6v7v8v9u10v1v2v3v4v5v6v7v8v9u20v1v2v3v4v5v6v7v8v9u30v1v2v3v4v5v6v7v8v9u40v1v2v3v4v5v6v7v8
v9u50v1v2v3v4v5v6"

end Name
end Text
end WorkflowKit
