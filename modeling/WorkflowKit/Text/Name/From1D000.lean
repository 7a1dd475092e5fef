/-
# Names of characters from U+1D000 to U+1EFFF

The names are written as `WorkflowKit.Text.Name` says.
-/

namespace WorkflowKit
namespace Text
namespace Name

/-- The names of the characters from U+1D000 to U+1EFFF. -/
def namesFrom1D000 : String := "
<1D000>aBYZANTINE MUSICAL SYMBOL PSILIzDASEIAzPERISPOMENIzOXEIA EKFONITIKONzgDIPLI
zVAREIA EKFONITIKONzhDIPLIzKATHISTIzSYRMATIKIzPARAKLITIKIzYPOKRISISzj DIPLIzKREMASTI
zAPESO EKFONITIKONzEXO EKFONITIKONzTELEIAzKENTIMATAzAPOSTROFOSzk DIPLIzSYNEVMAzTHITA
zOLIGON ARCHAIONzGORGON ARCHAIONzPSILONzCHAMILONzVATHYzISON ARCHAIONzKENTIMA ARCHAIONzhTA ARCHAION
zSAXIMATAzPARICHONzSTAVROS APODEXIAzOXEIAI ARCHAIONzVAREIAI ARCHAIONzAPODERMA ARCHAIONzdTHEMA
zKLASMAzREVMAzPIASMA ARCHAIONzTINAGMAzANATRICHISMAzSEISMAzbYNAGMA ARCHAIONziMETA STAVROU
zOYRANISMA ARCHAIONzTHEMAzLEMOIzDYOzTRIAzbESSERAzKRATIMATAzAPESO EXO NEOzFTHORA ARCHAIONzIMIFTHORA
zTROMIKON ARCHAIONzKATAVA TROMIKONzPELASTONzbSIFISTONzKONTEVMAzCHOREVMA ARCHAIONzRAPISMA
zPARAKALESMA ARCHAIONzfLITIKI ARCHAIONzICHADINzNANAzPETASMAzKONTEVMA ALLOzTROMIKON ALLO
zSTRAGGISMATAzGRONTHISMATAzISON NEOzOLIGON NEOzbXEIA NEOzPETASTIzKOUFISMAzPETASTOKOUFISMA
zKRATIMOKOUFISMAzPELASTON NEOzKENTIMATA NEO ANOzh NEO ANOzYPSILIzAPOSTROFOS NEOzjI SYNDESMOS NEO
zYPORROIzKRATIMOYPORROONzELAFRONzCHAMILIzMIKRON ISONzVAREIA NEOzPIASMA NEOzbSIFISTON NEOzOMALON
zANTIKENOMAzLYGISMAzPARAKLITIKI NEOzfALESMA NEOzETERON PARAKALESMAzKYLISMAzANTIKENOKYLISMA
zTROMIKON NEOzEKSTREPTONzSYNAGMA NEOzcRMAzCHOREVMA NEOzEPEGERMAzSEISMA NEOzXIRON KLASMA
zTROMIKOPSIFISTONzPSIFISTOLYGISMAzTROMIKOLYGISMAzhPARAKALESMAzPSIFISTOPARAKALESMAzTROMIKOSYNAGMA
zPSIFISTOSYNAGMAzGORGOSYNTHETONzARGOSYNTHETONzETERON ARGOSYNTHETONzOYRANISMA NEOzTHEMATISMOS ESO
znXOzf APLOUNzdS KAI APOTHESzKATAVASMAzENDOFONONzYFEN KATOzfANOzSTAVROSzKLASMA ANOzDIPLI ARCHAION
zKRATIMA ARCHAIONzjLLOziNEOzAPODERMA NEOzcLIzDIPLIzTRIPLIzbETRAPLIzKORONISzLEIMMA ENOS CHRONOU
zhDYO CHRONONzhTRION CHRONONziESSARON CHRONONzhIMISEOS CHRONOUzGORGON NEO ANO
zhPARESTIGMENON ARISTERAzvDEXIAzDIGORGONzi PARESTIGMENON ARISTERA KATOzzhANOzxDEXIAzTRIGORGON
zARGONzIMIDIARGONzDIARGONzAGOGI POLI ARGIzgARGOTERIzjIzgMETRIAziSIzgGORGIzkOTERIzgPOLI GORGI
zMARTYRIA PROTOS ICHOSzjALLI PROTOS ICHOSzjDEYTEROS ICHOSzjALLI DEYTEROS ICHOSzjTRITOS ICHOS
zmFONIASzkETARTOS ICHOSzsLEGETOS ICHOSzjLEGETOS ICHOSzjPLAGIOS ICHOSzISAKIA TELOUS ICHIMATOS
zAPOSTROFOI TELOUS ICHIMATOSzFANEROSIS TETRAFONIASzkMONOFONIASzkDIFONIASzMARTYRIA VARYS ICHOS
zjPROTOVARYS ICHOSzkLAGIOS TETARTOS ICHOSzGORTHMIKON N APLOUNznDIPLOUNzENARXIS KAI FTHORA VOU
zIMIFONONzeTHORONzFTHORA ARCHAION DEYTEROU ICHOUzhDIATONIKI PAzrNANAzhNAOS ICHOSzhDIATONIKI DI
zhSKLIRON DIATONON DIzhDIATONIKI KEzrZOzrNI KATOzuANOzhMALAKON CHROMA DIFONIASzwMONOFONIAS
zbHTORA SKLIRON CHROMA VASISzbTHORA SKLIRON CHROMA SYNAFIzhNENANOzCHROA ZYGOSzgKLITONzgSPATHI
zFTHORA I YFESIS TETARTIMORIONzhENARMONIOS ANTIFONIAzYFESIS TRITIMORIONzDIESIS TRITIMORION
ziETARTIMORIONzhAPLI DYO DODEKATAzhMONOGRAMMOS TESSERA DODEKATAzhDIGRAMMOS EX DODEKATA
zhTRIGRAMMOS OKTO DODEKATAzYFESIS APLI DYO DODEKATAzhMONOGRAMMOS TESSERA DODEKATA
zhDIGRAMMOS EX DODEKATAzhTRIGRAMMOS OKTO DODEKATAzGENIKI DIESISzhYFESISzDIASTOLI APLI MIKRIzpEGALI
zjDIPLIzjTHESEOSzSIMANSIS THESEOSzq DISIMOUzrTRISIMOUzsETRASIMOUzjARSEOSzp DISIMOUzqTRISIMOU
zrETRASIMOUzDIGRAMMA GGzcFTOGGOS OUzSTIGMAzARKTIKO PAziVOUziGAziDIziKEziZOziNIzKENTIMATA NEO MESO
zh NEO MESOzhTA NEO KATOzh NEO KATOzbLASMA KATOzGORGON NEO KATO
<1D100>aMUSICAL SYMBOL SINGLE BARLINEpDOUBLE BARLINEpFINAL BARLINEpREVERSE FINAL BARLINE
pDASHED BARLINEpSHORT BARLINEpLEFT REPEAT SIGNpRIGHT REPEAT SIGNqEPEAT DOTSpDAL SEGNOr CAPOpSEGNO
pCODApREPEATED FIGURE-1zg2zg3pFERMATAw BELOWpBREATH MARKpCAESURApBRACEtKETpONE-LINE STAFF
pTWO-LINE STAFFqHREE-LINE STAFFpFOUR-LINE STAFFqIVE-LINE STAFFpSIX-LINE STAFFtSTRING FRETBOARD
pFOUR-STRING FRETBOARDpG CLEFv OTTAVA ALTAzeBASSApC CLEFpF CLEFv OTTAVA ALTAzeBASSApDRUM CLEF-1z2
<1D129>pMULTIPLE MEASURE RESTpDOUBLE SHARPwFLATpFLAT UPuDOWNpNATURAL UPxDOWNpSHARP UPvDOWN
pQUARTER TONE SHARPzdFLATpCOMMON TIMEqUT TIMEpOTTAVA ALTAwBASSApQUINDICESIMA ALTAzdBASSA
pMULTI RESTpWHOLE RESTpHALF RESTpQUARTER RESTpEIGHTH RESTpSIXTEENTH RESTpTHIRTY-SECOND REST
pSIXTY-FOURTH RESTpONE HUNDRED TWENTY-EIGHTH RESTpX NOTEHEADpPLUS NOTEHEADpCIRCLE X NOTEHEAD
pSQUARE NOTEHEAD WHITEzgBLACKpTRIANGLE NOTEHEAD UP WHITEzlBLACKziLEFT WHITEznBLACKziRIGHT WHITE
zoBLACKziDOWN WHITEznBLACKziUP RIGHT WHITEzrBLACKpMOON NOTEHEAD WHITEzeBLACK
pTRIANGLE-ROUND NOTEHEAD DOWN WHITEztBLACKpPARENTHESIS NOTEHEADpVOID NOTEHEADpNOTEHEAD BLACK
qULL NOTEHEADpCLUSTER NOTEHEAD WHITEzhBLACKpBREVEpWHOLE NOTEpHALF NOTEpQUARTER NOTEpEIGHTH NOTE
pSIXTEENTH NOTEpTHIRTY-SECOND NOTEpSIXTY-FOURTH NOTEpONE HUNDRED TWENTY-EIGHTH NOTEpCOMBINING STEM
zbPRECHGESANG STEMzTREMOLO-1zi2zi3pFINGERED TREMOLO-1zh2zh3pCOMBINING AUGMENTATION DOTzFLAG-1zf2
zf3zf4zf5pBEGIN BEAMpEND BEAMpBEGIN TIEpEND TIEpBEGIN SLURpEND SLURpBEGIN PHRASEpEND PHRASE
pCOMBINING ACCENTzSTACCATOzTENUTOzSTACCATISSIMOzMARCATOzh-STACCATOzACCENT-STACCATOzLOURE
pARPEGGIATO UPzbDOWNpCOMBINING DOITzRIPzFLIPzSMEARzBENDzDOUBLE TONGUEzTRIPLE TONGUEpRINFORZANDO
pSUBITOpZpPIANOpMEZZOpFORTEpCRESCENDOpDECRESCENDOpGRACE NOTE SLASHzbNO SLASHpTRqURNpINVERTED TURN
pTURN SLASHuUPpORNAMENT STROKE-1zg2zg3zg4zg5zg6zg7zg8zg9zg10zh1pHAUPTSTIMMEpNEBENSTIMME
pEND OF STIMMEpDEGREE SLASHpCOMBINING DOWN BOWzUP BOWzHARMONICzSNAP PIZZICATOpPEDAL MARKvUP MARK
pHALF PEDAL MARKpGLISSANDO UPzDOWNpWITH FINGERNAILSpDAMPt ALLpMAXIMApLONGApBREVISpSEMIBREVIS WHITE
zbBLACKpMINIMAv BLACKpSEMIMINIMA WHITEzbBLACKpFUSA WHITEuBLACKpLONGA PERFECTA RESTvIMPERFECTA REST
pBREVIS RESTpSEMIBREVIS RESTpMINIMA RESTpSEMIMINIMA RESTpTEMPUS PERFECTUM CUM PROLATIONE PERFECTA
zwIMPERFECTAzwPERFECTA DIMINUTION-1wIMPERFECTUM CUM PROLATIONE PERFECTAzyIMPERFECTA
zzj DIMINUTION-1zzv2zzv3pCROIXpGREGORIAN C CLEFzF CLEFpSQUARE BpVIRGApPODATUSpCLIVISpSCANDICUS
pCLIMACUSpTORCULUSpPORRECTUSy FLEXUSpSCANDICUS FLEXUSpTORCULUS RESUPINUSpPES SUBPUNCTIS
pKIEVAN C CLEFwEND OF PIECEwFINAL NOTEwRECITATIVE MARKwWHOLE NOTEwHALF NOTEwQUARTER NOTE STEM DOWN
zpUPwEIGHTH NOTE STEM DOWNzoUPwFLAT SIGNpSORIpKORON<1D200>aGREEK VOCAL NOTATION SYMBOL-1zd2zd3zd4
zd5zd6zd7zd8zd9zd10ze1ze2ze3ze4ze5ze6ze7ze8ze9zd20ze1ze2ze3ze4zd50ze1ze2ze3ze4
gINSTRUMENTAL NOTATION SYMBOL-1zk2zk4zk5zk7zk8zk11zl2zl3zl4zl7zl8zl9zk23zl4zl5zl6zl7zl9zk30zl2zl6
zl7zl8zl9zk40zl2zl3zl5zl7zl8zl9zk50zl1zl2zl3zl4aCOMBINING GREEK MUSICAL TRISEMEzETRASEMEyPENTASEME
aGREEK MUSICAL LEIMMA<1D2E0>aMAYAN NUMERAL ZEROoONEoTWOpHREEoFOURpIVEoSIXpEVENoEIGHToNINEoTEN
oELEVENoTWELVEpHIRTEENoFOURTEENpIFTEENoSIXTEENpEVENTEENoEIGHTEENoNINETEEN<1D300>bONOGRAM FOR EARTH
aDIGRAM FOR HEAVENLY EARTHmUMAN EARTHlEARTHLY HEAVENuUMANpHaTETRAGRAM FOR CENTREoFULL CIRCLEoMIRED
oBARRIERoKEEPING SMALLoCONTRARIETYoASCENToOPPOSITIONoBRANCHING OUToDEFECTIVENESS OR DISTORTION
pIVERGENCEoYOUTHFULNESSoINCREASEoPENETRATIONoREACHoCONTACToHOLDING BACKoWAITINGoFOLLOWINGoADVANCE
oRELEASEqSISTANCEoEASEoJOYoCONTENTIONoENDEAVOURoDUTIESoCHANGEoDECISIVENESSoBOLD RESOLUTIONoPACKING
oLEGIONoCLOSENESSoKINSHIPoGATHERINGoSTRENGTHoPURITYoFULLNESSoRESIDENCEoLAW OR MODELoRESPONSE
oGOING TO MEEToENCOUNTERSoSTOVEoGREATNESSoENLARGEMENToPATTERNoRITUALoFLIGHToVASTNESS OR WASTING
oCONSTANCYoMEASUREoETERNITYoUNITYoDIMINISHMENToCLOSED MOUTHoGUARDEDNESSpATHERING INoMASSING
oACCUMULATIONoEMBELLISHMENToDOUBToWATCHoSINKINGoINNERoDEPARTUREpARKENINGpIMMINGoEXHAUSTION
oSEVERANCEpTOPPAGEoHARDNESSoCOMPLETIONpLOSUREoFAILUREoAGGRAVATIONoCOMPLIANCEoON THE VERGE
oDIFFICULTIESoLABOURINGoFOSTERING<1D360>aCOUNTING ROD UNIT DIGIT ONEyTWOzHREEyFOURzIVEySIXzEVEN
yEIGHTyNINEnTENS DIGIT ONEyTWOzHREEyFOURzIVEySIXzEVENyEIGHTyNINEaIDEOGRAPHIC TALLY MARK ONExTWO
yHREExFOURyIVEaTALLY MARK ONElFIVE<1D400>aMATHEMATICAL BOLD CAPITAL AzbBzbCzbDzbEzbFzbGzbHzbIzbJ
zbKzbLzbMzbNzbOzbPzbQzbRzbSzbTzbUzbVzbWzbXzbYzbZsSMALL AyByCyDyEyFyGyHyIyJyKyLyMyNyOyPyQyRySyTyUyV
yWyXyYyZnITALIC CAPITAL AzdBzdCzdDzdEzdFzdGzdHzdIzdJzdKzdLzdMzdNzdOzdPzdQzdRzdSzdTzdUzdVzdWzdXzdY
zdZuSMALL AzbBzbCzbDzbEzbFzbG<1D456>zbIzbJzbKzbLzbMzbNzbOzbPzbQzbRzbSzbTzbUzbVzbWzbXzbYzbZ
nBOLD ITALIC CAPITAL AziBziCziDziEziFziGziHziIziJziKziLziMziNziOziPziQziRziSziTziUziVziWziXziYziZ
zSMALL AzgBzgCzgDzgEzgFzgGzgHzgIzgJzgKzgLzgMzgNzgOzgPzgQzgRzgSzgTzgUzgVzgWzgXzgYzgZ
nSCRIPT CAPITAL A<1D49E>zdCzdD<1D4A2>zdG<1D4A5>zdJzdK<1D4A9>zdNzdOzdPzdQ<1D4AE>zdSzdTzdUzdVzdWzdX
zdYzdZuSMALL AzbBzbCzbD<1D4BB>zbF<1D4BD>zbHzbIzbJzbKzbLzbMzbN<1D4C5>zbPzbQzbRzbSzbTzbUzbVzbWzbXzbY
zbZnBOLD SCRIPT CAPITAL AziBziCziDziEziFziGziHziIziJziKziLziMziNziOziPziQziRziSziTziUziVziWziXziY
ziZzSMALL AzgBzgCzgDzgEzgFzgGzgHzgIzgJzgKzgLzgMzgNzgOzgPzgQzgRzgSzgTzgUzgVzgWzgXzgYzgZ
nFRAKTUR CAPITAL AzeB<1D507>zeDzeEzeFzeG<1D50D>zeJzeKzeLzeMzeNzeOzePzeQ<1D516>zeSzeTzeUzeVzeWzeX
zeY<1D51E>vSMALL AzcBzcCzcDzcEzcFzcGzcHzcIzcJzcKzcLzcMzcNzcOzcPzcQzcRzcSzcTzcUzcVzcWzcXzcYzcZ
nDOUBLE-STRUCK CAPITAL AzkB<1D53B>zkDzkEzkFzkG<1D540>zkIzkJzkKzkLzkM<1D546>zkO<1D54A>zkSzkTzkUzkV
zkWzkXzkY<1D552>zcSMALL AziBziCziDziEziFziGziHziIziJziKziLziMziNziOziPziQziRziSziTziUziVziWziXziY
ziZnBOLD FRAKTUR CAPITAL AzjBzjCzjDzjEzjFzjGzjHzjIzjJzjKzjLzjMzjNzjOzjPzjQzjRzjSzjTzjUzjVzjWzjXzjY
zjZzbSMALL AzhBzhCzhDzhEzhFzhGzhHzhIzhJzhKzhLzhMzhNzhOzhPzhQzhRzhSzhTzhUzhVzhWzhXzhYzhZ
nSANS-SERIF CAPITAL AzhBzhCzhDzhEzhFzhGzhHzhIzhJzhKzhLzhMzhNzhOzhPzhQzhRzhSzhTzhUzhVzhWzhXzhYzhZ
ySMALL AzfBzfCzfDzfEzfFzfGzfHzfIzfJzfKzfLzfMzfNzfOzfPzfQzfRzfSzfTzfUzfVzfWzfXzfYzfZyBOLD CAPITAL A
zmBzmCzmDzmEzmFzmGzmHzmIzmJzmKzmLzmMzmNzmOzmPzmQzmRzmSzmTzmUzmVzmWzmXzmYzmZzeSMALL AzkBzkCzkDzkE
zkFzkGzkHzkIzkJzkKzkLzkMzkNzkOzkPzkQzkRzkSzkTzkUzkVzkWzkXzkYzkZyITALIC CAPITAL AzoBzoCzoDzoEzoFzoG
zoHzoIzoJzoKzoLzoMzoNzoOzoPzoQzoRzoSzoTzoUzoVzoWzoXzoYzoZzgSMALL AzmBzmCzmDzmEzmFzmGzmHzmIzmJzmK
zmLzmMzmNzmOzmPzmQzmRzmSzmTzmUzmVzmWzmXzmYzmZyBOLD ITALIC CAPITAL AztBztCztDztEztFztGztHztIztJztK
ztLztMztNztOztPztQztRztSztTztUztVztWztXztYztZzlSMALL AzrBzrCzrDzrEzrFzrGzrHzrIzrJzrKzrLzrMzrNzrO
zrPzrQzrRzrSzrTzrUzrVzrWzrXzrYzrZnMONOSPACE CAPITAL AzgBzgCzgDzgEzgFzgGzgHzgIzgJzgKzgLzgMzgNzgOzgP
zgQzgRzgSzgTzgUzgVzgWzgXzgYzgZxSMALL AzeBzeCzeDzeEzeFzeGzeHzeIzeJzeKzeLzeMzeNzeOzePzeQzeRzeSzeTzeU
zeVzeWzeXzeYzeZnITALIC SMALL DOTLESS IzjJ<1D6A8>nBOLD CAPITAL ALPHAzbBETAzbGAMMAzbDELTAzbEPSILON
zbZETAzbETAzbTHETAzbIOTAzbKAPPAzbLAMDAzbMUzbNUzbXIzbOMICRONzbPIzbRHOzbTHETA SYMBOLzbSIGMAzbTAU
zbUPSILONzbPHIzbCHIzbPSIzbOMEGAsNABLAsSMALL ALPHAyBETAyGAMMAyDELTAyEPSILONyZETAyETAyTHETAyIOTA
yKAPPAyLAMDAyMUyNUyXIyOMICRONyPIyRHOyFINAL SIGMAySIGMAyTAUyUPSILONyPHIyCHIyPSIyOMEGA
sPARTIAL DIFFERENTIALsEPSILON SYMBOLsTHETA SYMBOLsKAPPA SYMBOLsPHI SYMBOLsRHO SYMBOLsPI SYMBOL
nITALIC CAPITAL ALPHAzdBETAzdGAMMAzdDELTAzdEPSILONzdZETAzdETAzdTHETAzdIOTAzdKAPPAzdLAMDAzdMUzdNU
zdXIzdOMICRONzdPIzdRHOzdTHETA SYMBOLzdSIGMAzdTAUzdUPSILONzdPHIzdCHIzdPSIzdOMEGAuNABLAuSMALL ALPHA
zbBETAzbGAMMAzbDELTAzbEPSILONzbZETAzbETAzbTHETAzbIOTAzbKAPPAzbLAMDAzbMUzbNUzbXIzbOMICRONzbPIzbRHO
zbFINAL SIGMAzbSIGMAzbTAUzbUPSILONzbPHIzbCHIzbPSIzbOMEGAuPARTIAL DIFFERENTIALuEPSILON SYMBOL
uTHETA SYMBOLuKAPPA SYMBOLuPHI SYMBOLuRHO SYMBOLuPI SYMBOLnBOLD ITALIC CAPITAL ALPHAziBETAziGAMMA
ziDELTAziEPSILONziZETAziETAziTHETAziIOTAziKAPPAziLAMDAziMUziNUziXIziOMICRONziPIziRHOziTHETA SYMBOL
ziSIGMAziTAUziUPSILONziPHIziCHIziPSIziOMEGAzNABLAzSMALL ALPHAzgBETAzgGAMMAzgDELTAzgEPSILONzgZETA
zgETAzgTHETAzgIOTAzgKAPPAzgLAMDAzgMUzgNUzgXIzgOMICRONzgPIzgRHOzgFINAL SIGMAzgSIGMAzgTAUzgUPSILON
zgPHIzgCHIzgPSIzgOMEGAzPARTIAL DIFFERENTIALzEPSILON SYMBOLzTHETA SYMBOLzKAPPA SYMBOLzPHI SYMBOL
zRHO SYMBOLzPI SYMBOLnSANS-SERIF BOLD CAPITAL ALPHAzmBETAzmGAMMAzmDELTAzmEPSILONzmZETAzmETAzmTHETA
zmIOTAzmKAPPAzmLAMDAzmMUzmNUzmXIzmOMICRONzmPIzmRHOzmTHETA SYMBOLzmSIGMAzmTAUzmUPSILONzmPHIzmCHI
zmPSIzmOMEGAzeNABLAzeSMALL ALPHAzkBETAzkGAMMAzkDELTAzkEPSILONzkZETAzkETAzkTHETAzkIOTAzkKAPPA
zkLAMDAzkMUzkNUzkXIzkOMICRONzkPIzkRHOzkFINAL SIGMAzkSIGMAzkTAUzkUPSILONzkPHIzkCHIzkPSIzkOMEGA
zePARTIAL DIFFERENTIALzeEPSILON SYMBOLzeTHETA SYMBOLzeKAPPA SYMBOLzePHI SYMBOLzeRHO SYMBOL
zePI SYMBOLzeITALIC CAPITAL ALPHAztBETAztGAMMAztDELTAztEPSILONztZETAztETAztTHETAztIOTAztKAPPA
ztLAMDAztMUztNUztXIztOMICRONztPIztRHOztTHETA SYMBOLztSIGMAztTAUztUPSILONztPHIztCHIztPSIztOMEGA
zlNABLAzlSMALL ALPHAzrBETAzrGAMMAzrDELTAzrEPSILONzrZETAzrETAzrTHETAzrIOTAzrKAPPAzrLAMDAzrMUzrNU
zrXIzrOMICRONzrPIzrRHOzrFINAL SIGMAzrSIGMAzrTAUzrUPSILONzrPHIzrCHIzrPSIzrOMEGA
zlPARTIAL DIFFERENTIALzlEPSILON SYMBOLzlTHETA SYMBOLzlKAPPA SYMBOLzlPHI SYMBOLzlRHO SYMBOL
zlPI SYMBOLnBOLD CAPITAL DIGAMMAsSMALL DIGAMMA<1D7CE>sDIGIT ZEROyONEyTWOzHREEyFOURzIVEySIXzEVEN
yEIGHTyNINEnDOUBLE-STRUCK DIGIT ZEROziONEziTWOzjHREEziFOURzjIVEziSIXzjEVENziEIGHTziNINE
nSANS-SERIF DIGIT ZEROzfONEzfTWOzgHREEzfFOURzgIVEzfSIXzgEVENzfEIGHTzfNINEyBOLD DIGIT ZEROzkONE
zkTWOzlHREEzkFOURzlIVEzkSIXzlEVENzkEIGHTzkNINEnMONOSPACE DIGIT ZEROzeONEzeTWOzfHREEzeFOURzfIVE
zeSIXzfEVENzeEIGHTzeNINEaSIGNWRITING HAND-FIST INDEXrCIRCLE INDEXsUP INDEXrOVAL INDEXrHINGE INDEX
rANGLE INDEXrFIST INDEX BENTrCIRCLE INDEX BENTrFIST THUMB UNDER INDEX BENTwINDEX RAISED KNUCKLE
zdCUPPEDzdHINGEDzj LOWrCIRCLE INDEX HINGErFIST INDEX MIDDLErCIRCLE INDEX MIDDLE
rFIST INDEX MIDDLE BENTzkRAISED KNUCKLESzkHINGEDzdUP MIDDLE HINGEDzdHINGED MIDDLE UP
zdMIDDLE CONJOINEDzt INDEX BENTzuMIDDLE BENTzuCUPPEDzuHINGEDzlROSSEDrCIRCLE INDEX MIDDLE CROSSED
rFIST MIDDLE BENT OVER INDEXwINDEX BENT OVER MIDDLEzdMIDDLE THUMBrCIRCLE INDEX MIDDLE THUMB
rFIST INDEX MIDDLE STRAIGHT THUMB BENTzkBENT THUMB STRAIGHTzkTHUMB BENTzkHINGED SPREAD THUMB SIDE
zdUP MIDDLE HINGED THUMB SIDEzzbCONJOINEDzdHINGED MIDDLE UP THUMB SIDE
zdMIDDLE UP SPREAD THUMB FORWARDzkTHUMB CUPPEDzrIRCLEDzqHOOKEDzrINGED
wTHUMB BETWEEN INDEX MIDDLE STRAIGHTwINDEX MIDDLE CONJOINED THUMB SIDEzzf CONJOINEDzzgBENT
wMIDDLE THUMB HOOKED INDEX UPwINDEX THUMB HOOKED MIDDLE UPzdMIDDLE CONJOINED HINGED THUMB SIDE
zlROSSED THUMB SIDEzlONJOINED THUMB FORWARDzuCUPPED THUMB FORWARDwMIDDLE THUMB CUPPED INDEX UP
wINDEX THUMB CUPPED MIDDLE UPwMIDDLE THUMB CIRCLED INDEX UPzyHINGED
wINDEX THUMB ANGLED OUT MIDDLE UPzqIN MIDDLE UPzjCIRCLED MIDDLE UPzdMIDDLE THUMB CONJOINED HINGED
zqANGLED OUTzvDwMIDDLE THUMB ANGLED OUT INDEX UPzzcCROSSEDzrINDEX UP
wINDEX THUMB HOOKED MIDDLE HINGEDsLAT FOUR FINGERSzj BENTzkHINGEDzkCONJOINEDzt SPLIT
rCLAW FOUR FINGERS CONJOINEDrFIST FOUR FINGERS CONJOINED BENTrHINGE FOUR FINGERS CONJOINED
rFLAT FIVE FINGERS SPREADwHEEL FIVE FINGERS SPREADwFIVE FINGERS SPREAD FOUR BENT
wHEEL FIVE FINGERS SPREAD FOUR BENTwFIVE FINGERS SPREAD BENTwHEEL FIVE FINGERS SPREAD BENT
wFIVE FINGERS SPREAD THUMB FORWARDrCUP FIVE FINGERS SPREADzp OPENrHINGE FIVE FINGERS SPREAD OPEN
rOVAL FIVE FINGERS SPREADrFLAT FIVE FINGERS SPREAD HINGEDzx THUMB SIDEzyNO THUMBuT
v BETWEEN PALM FACINGSwHEELwTHUMB SIDEwHEEL THUMB SIDEwTHUMB BENTzdFORWARDwSPLIT INDEX THUMB SIDE
zdCENTREzj THUMB SIDEzu BENTzdLITTLErCLAWv THUMB SIDEwNO THUMBwTHUMB FORWARDrHOOK CURLICUEuK
rCUP OPENtPu OPEN THUMB SIDEvTHUMB SIDEvOPEN NO THUMBvNO THUMBvOPEN THUMB FORWARDvTHUMB FORWARD
tRLICUE OPENyEsIRCLErOVALv THUMB SIDEwNO THUMBwTHUMB FORWARDrHINGE OPENzc THUMB FORWARDvEw SMALL
xOPEN THUMB SIDExTHUMB SIDExOPEN NO THUMBxNO THUMBxTHUMB SIDE TOUCHING INDEXzeBETWEEN MIDDLE RING
rANGLErFIST INDEX MIDDLE RINGrCIRCLE INDEX MIDDLE RINGrHINGE INDEX MIDDLE RING
rANGLE INDEX MIDDLE RINGrHINGE LITTLErFIST INDEX MIDDLE RING BENTzpCONJOINED
rHINGE INDEX MIDDLE RING CONJOINEDrFIST LITTLE DOWNzi RIPPLE STRAIGHTzqCURVEDzjOTHERS CIRCLEDzeUP
wTHUMB UNDER LITTLE UPrCIRCLE LITTLE UPrOVAL LITTLE UPrANGLE LITTLE UPrFIST LITTLE RAISED KNUCKLE
zeBENTzeTOUCHES THUMBzfHUMBrHINGE LITTLE THUMBrFIST LITTLE INDEX THUMBrHINGE LITTLE INDEX THUMB
rANGLE LITTLE INDEX THUMB INDEX THUMB OUTzzcBrFIST LITTLE INDEXrCIRCLE LITTLE INDEX
rHINGE LITTLE INDEXrANGLE LITTLE INDEXrFIST INDEX MIDDLE LITTLErCIRCLE INDEX MIDDLE LITTLE
rHINGE INDEX MIDDLE LITTLExRINGrANGLE INDEX MIDDLE LITTLErFIST INDEX MIDDLE CROSS LITTLE
rCIRCLE INDEX MIDDLE CROSS LITTLErFIST RING DOWNrHINGE RING DOWN INDEX THUMB HOOK MIDDLE
rANGLE RING DOWN MIDDLE THUMB INDEX CROSSrFIST RING UPzcRAISED KNUCKLEzcLITTLErCIRCLE RING LITTLE
rOVAL RING LITTLErANGLE RING LITTLErFIST RING MIDDLEzi CONJOINEDzjRAISED KNUCKLESzcINDEXzcTHUMB
rHOOK RING THUMBrFIST INDEX RING LITTLErCIRCLE INDEX RING LITTLEsURLICUE INDEX RING LITTLE ON
rHOOK INDEX RING LITTLE OUTzpINzpUNDERrCUP INDEX RING LITTLErHINGE INDEX RING LITTLE
rANGLE INDEX RING LITTLE OUTzoErFIST MIDDLE DOWNrHINGE MIDDLErFIST MIDDLE UPrCIRCLE MIDDLE UP
rFIST MIDDLE RAISED KNUCKLEzeUP THUMB SIDErHOOK MIDDLE THUMBrFIST MIDDLE THUMB LITTLEzeLITTLE
zeRING LITTLErCIRCLE MIDDLE RING LITTLEsURLICUE MIDDLE RING LITTLE ONtP MIDDLE RING LITTLE
rHINGE MIDDLE RING LITTLErANGLE MIDDLE RING LITTLE OUTzrINzpErCIRCLE MIDDLE RING LITTLE BENT
sLAW MIDDLE RING LITTLE CONJOINEDzz SIDErHOOK MIDDLE RING LITTLE CONJOINED OUTzzbINzyD
sINGE INDEX HINGEDrFIST INDEX THUMB SIDErHINGE INDEX THUMB SIDE
rFIST INDEX THUMB SIDE THUMB DIAGONALzuCONJOINEDzuBENTzoINDEX BENTzoBOTH BENTzoINDEX HINGE
zjFORWARD INDEX STRAIGHTzxBENTzjHOOKzjCURLICUEzmVE THUMB INSIDE
rCLAW INDEX THUMB CURVE THUMB INSIDErFIST INDEX THUMB CURVE THUMB UNDERzkIRCLErCUP INDEX THUMB
zh OPENrHINGE INDEX THUMB OPENzkLARGEziBzj SMALLrANGLE INDEX THUMB OUTzkINziBrFIST THUMBzc HEEL
zdSIDE DIAGONALziCONJOINEDziBENTzdFORWARDzdBETWEEN INDEX MIDDLEzlMIDDLE RINGzlRING LITTLE
zdUNDER TWO FINGERSzdOVER TWO FINGERSzdUNDER THREE FINGERSzjFOUR FINGERS
zdOVER FOUR RAISED KNUCKLESuTv HEELmTOUCH SINGLEsMULTIPLEsBETWEENmGRASP SINGLEsMULTIPLEsBETWEEN
mSTRIKE SINGLEtMULTIPLEtBETWEENmBRUSH SINGLEsMULTIPLEsBETWEENmRUB SINGLEqMULTIPLEqBETWEEN
mSURFACE SYMBOLSuBETWEENnQUEEZE LARGE SINGLEuSMALL SINGLEuLARGE MULTIPLEuSMALL MULTIPLEvEQUENTIAL
mFLICK LARGE SINGLEsSMALL SINGLEsLARGE MULTIPLEsSMALL MULTIPLEtEQUENTIALmSQUEEZE FLICK ALTERNATING
mMOVEMENT-HINGE UP DOWN LARGEzkSMALLzfSEQUENTIALzcDOWN SEQUENTIALzcUP DOWN ALTERNATING LARGE
zwSMALLzcSIDE TO SIDE SCISSORSvWALLPLANE FINGER CONTACTvFLOORPLANE FINGER CONTACT
vWALLPLANE SINGLE STRAIGHT SMALLzwMEDIUMzwLARGEzzcSTznWRIST FLEXzgDOUBLE STRAIGHTznWRIST FLEX
znALTERNATINGzy WRIST FLEXzgCROSSzgTRIPLE STRAIGHT MOVEMENTznWRIST FLEXznALTERNATINGzy WRIST FLEX
zgBEND SMALLzlMEDIUMzlLARGEzgCORNER SMALLznMEDIUMznLARGEznROTATIONzhHECK SMALLzmMEDIUMzmLARGE
zgBOX SMALLzkMEDIUMzkLARGEzgZIGZAG SMALLznMEDIUMznLARGEzgPEAKS SMALLzmMEDIUMzmLARGE
mTRAVEL-WALLPLANE ROTATION-WALLPLANE SINGLEzxDOUBLEzxALTERNATINGznFLOORPLANE SINGLEzyDOUBLE
zyALTERNATINGzeSHAKINGzeARM SPIRAL SINGLEzpDOUBLEzpTRIPLEmMOVEMENT-DIAGONAL AWAY SMALLzkMEDIUM
zkLARGEzpSTzfTOWARDS SMALLznMEDIUMznLARGEzsSTzfBETWEEN AWAY SMALLzsMEDIUMzsLARGEzxST
znTOWARDS SMALLzvMEDIUMzvLARGEzzbSTvFLOORPLANE SINGLE STRAIGHT SMALLzxMEDIUMzxLARGEzzdST
zoWRIST FLEXzhDOUBLE STRAIGHTzoWRIST FLEXzoALTERNATINGzz WRIST FLEXzhCROSS
zhTRIPLE STRAIGHT MOVEMENTzoWRIST FLEXzoALTERNATING MOVEMENTzzbWRIST FLEXzhBENDzhCORNER SMALL
zoMEDIUMzoLARGEziHECKzhBOX SMALLzlMEDIUMzlLARGEzhZIGZAG SMALLzoMEDIUMzoLARGEzhPEAKS SMALLznMEDIUM
znLARGEmTRAVEL-FLOORPLANE ROTATION-FLOORPLANE SINGLEzzDOUBLEzzALTERNATINGzoWALLPLANE SINGLE
zyDOUBLEzyALTERNATINGzfSHAKINGmMOVEMENT-WALLPLANE CURVE QUARTER SMALLzuMEDIUMzuLARGEzzST
zmHALF-CIRCLE SMALLzyMEDIUMzyLARGEzzeSTzmTHREE-QUARTER CIRCLE SMALLzziMEDIUMzgHUMP SMALLzlMEDIUM
zlLARGEzgLOOP SMALLzlMEDIUMzlLARGEzlSMALL DOUBLEzgWAVE CURVE DOUBLE SMALLzyMEDIUMzyLARGE
zrTRIPLE SMALLzyMEDIUMzyLARGEzgCURVE THEN STRAIGHTzlD CROSS SMALLztMEDIUM
mROTATION-WALLPLANE SINGLEzgDOUBLEzgALTERNATEmMOVEMENT-WALLPLANE SHAKINGzgCURVE HITTING FRONT WALL
zgHUMP HITTING FRONT WALLzgLOOP HITTING FRONT WALLzgWAVE HITTING FRONT WALL
mROTATION-WALLPLANE SINGLE HITTING FRONT WALLzgDOUBLE HITTING FRONT WALL
zgALTERNATING HITTING FRONT WALLmMOVEMENT-WALLPLANE CURVE HITTING CHESTzgHUMP HITTING CHEST
zgLOOP HITTING CHESTzgWAVE HITTING CHESTmROTATION-WALLPLANE SINGLE HITTING CHEST
zgDOUBLE HITTING CHESTzgALTERNATING HITTING CHESTmMOVEMENT-WALLPLANE WAVE DIAGONAL PATH SMALL
zzMEDIUMzzLARGEvFLOORPLANE CURVE HITTING CEILING SMALLzzeLARGEzhHUMP HITTING CEILING SMALL DOUBLE
zzdLARGE DOUBLEzzdSMALL TRIPLEzzdLARGE TRIPLEzhLOOP HITTING CEILING SMALL SINGLEzzdLARGE SINGLE
zzdSMALL DOUBLEzzdLARGE DOUBLEzhWAVE HITTING CEILING SMALLzzdLARGE
mROTATION-FLOORPLANE SINGLE HITTING CEILINGzhDOUBLE HITTING CEILINGzhALTERNATING HITTING CEILING
mMOVEMENT-FLOORPLANE CURVE HITTING FLOOR SMALLzzcLARGEzhHUMP HITTING FLOOR SMALL DOUBLE
zzbLARGE DOUBLEzzbTRIPLE SMALL TRIPLEzziLARGE TRIPLEzhLOOP HITTING FLOOR SMALL SINGLE
zzbLARGE SINGLEzzbSMALL DOUBLEzzbLARGE DOUBLEzhWAVE HITTING FLOOR SMALLzzbLARGE
mROTATION-FLOORPLANE SINGLE HITTING FLOORzhDOUBLE HITTING FLOORzhALTERNATING HITTING FLOOR
mMOVEMENT-FLOORPLANE CURVE SMALLznMEDIUMznLARGEzsSTznCOMBINEDzhHUMP SMALLzhLOOP SMALLzhWAVE SNAKE
znMALLzmLARGEmROTATION-FLOORPLANE SINGLEzhDOUBLEzhALTERNATINGmMOVEMENT-FLOORPLANE SHAKING PARALLEL
vWALLPLANE ARM CIRCLE SMALL SINGLEzrMEDIUM SINGLEzrSMALL DOUBLEzrMEDIUM DOUBLE
vFLOORPLANE ARM CIRCLE HITTING WALL SMALL SINGLEzzgMEDIUM SINGLEzzgLARGE SINGLEzzgSMALL DOUBLE
zzgMEDIUM DOUBLEzzgLARGE DOUBLEvWALLPLANE WRIST CIRCLE FRONT SINGLEzzDOUBLE
vFLOORPLANE WRIST CIRCLE HITTING WALL SINGLEzziDOUBLEvWALLPLANE FINGER CIRCLES SINGLEzvDOUBLE
vFLOORPLANE FINGER CIRCLES HITTING WALL SINGLEzzkDOUBLEmDYNAMIC ARROWHEAD SMALLzfLARGEuFASTuSLOW
uTENSEuRELAXEDuSIMULTANEOUSzh ALTERNATINGuEVERY OTHER TIMEuGRADUALmHEADq RIM
rMOVEMENT-WALLPLANE STRAIGHTzlTILTzbFLOORPLANE STRAIGHTzbWALLPLANE CURVEzbFLOORPLANE CURVEz CIRCLE
mFACE DIRECTION POSITION NOSE FORWARD TILTINGzqUP OR DOWNzzb TILTINGmEYEBROWS STRAIGHT UPzfNEUTRAL
zfDOWNmDREAMY EYEBROWS NEUTRAL DOWNzdDOWN NEUTRALzdUP NEUTRALzdNEUTRAL UPmFOREHEAD NEUTRALvCONTACT
vWRINKLEDmEYES OPENrSQUEEZEDrCLOSEDp BLINK SINGLEwMULTIPLEpS HALF OPENrWIDE OPENrHALF CLOSED
rWIDENING MOVEMENTp WINKpLASHES UPwDOWNwFLUTTERINGpGAZE-WALLPLANE STRAIGHTzn DOUBLEzoALTERNATING
uFLOORPLANE STRAIGHTzo DOUBLEzpALTERNATINGuWALLPLANE CURVEDuFLOORPLANE CURVEDuWALLPLANE CIRCLING
mCHEEKS PUFFEDtNEUTRALtSUCKEDmTENSE CHEEKS HIGHzMIDDLEzLOWmEARSmNOSE NEUTRALrCONTACTrWRINKLES
sIGGLESmAIR BLOWING OUTqSUCKING INqBLOW SMALL ROTATIONSqSUCK SMALL ROTATIONSmBREATH INHALEtEXHALE
mMOUTH CLOSED NEUTRALzFORWARDzCONTACTsSMILEx WRINKLEDyOPENsFROWNx WRINKLEDyOPENsOPEN CIRCLE
xFORWARDxWRINKLEDxOVALzc WRINKLEDzdYAWNxRECTANGLEzh WRINKLEDziYAWNsKISSw FORWARDxWRINKLEDsTENSE
x FORWARDySUCKEDmLIPS PRESSED TOGETHERp LOWER OVER UPPERqUPPER OVER LOWERmMOUTH CORNERS
sWRINKLES SINGLEzcDOUBLEmTONGUE STICKING OUT FARtLICKING LIPStTIP BETWEEN LIPS
xTOUCHING INSIDE MOUTHtINSIDE MOUTH RELAXEDtMOVES AGAINST CHEEKtCENTRE STICKING OUTzbINSIDE MOUTH
nEETHr MOVEMENTsON TONGUEzc MOVEMENTvLIPSz MOVEMENTsBITE LIPSmMOVEMENT-WALLPLANE JAW
vFLOORPLANE JAWmNECKmHAIRmEXCITEMENTmSHOULDER HIP SPINEzPOSITIONSmWALLPLANE SHOULDER HIP MOVE
mFLOORPLANE SHOULDER HIP MOVEmSHOULDER TILTING FROM WAISTmTORSO-WALLPLANE STRAIGHT STRETCH
zdCURVED BENDsFLOORPLANE TWISTINGmUPPER BODY TILTING FROM HIP JOINTSmLIMB COMBINATIONrLENGTH-1y2y3
y4y5y6y7mFINGERmLOCATION-WALLPLANE SPACEvFLOORPLANE SPACEu HEIGHTvWIDTHvDEPTHvHEAD NECKvTORSO
vLIMBS DIGITSmCOMMAmFULL STOPmSEMICOLONmCOLONmPARENTHESIS<1DA9B>mFILL MODIFIER-2zb3zb4zb5zb6
<1DAA1>mROTATION MODIFIER-2zf3zf4zf5zf6zf7zf8zf9zf10zg1zg2zg3zg4zg5zg6
<1DF00>aLATIN SMALL LETTER FENG DIGRAPH WITH TRILLtREVERSED SCRIPT GgLETTER SMALL CAPITAL TURNED G
gSMALL LETTER REVERSED KgLETTER SMALL CAPITAL L WITH BELTgSMALL LETTER LEZH WITH RETROFLEX HOOK
tTURNED Y WITH BELTtREVERSED ENGtTURNED R WITH LONG LEG AND RETROFLEX HOOK
u WITH HOOK AND RETROFLEX HOOKgLETTER RETROFLEX CLICK WITH RETROFLEX HOOK
gSMALL LETTER ESH WITH DOUBLE BARzn AND CURLtTURNED T WITH CURL
gLETTER INVERTED GLOTTAL STOP WITH CURLnSTRETCHED C WITH CURLoMALL CAPITAL TURNED K
gSMALL LETTER L WITH FISHHOOKtDEZH DIGRAPH WITH PALATAL HOOKtL WITH BELT AND PALATAL HOOK
tENG WITH PALATAL HOOKtTURNED R WITH PALATAL HOOKtR WITH FISHHOOK AND PALATAL HOOK
tTESH DIGRAPH WITH PALATAL HOOKtEZH WITH PALATAL HOOKtDEZH DIGRAPH WITH RETROFLEX HOOK
tI WITH STROKE AND RETROFLEX HOOKtO WITH RETROFLEX HOOKtTESH DIGRAPH WITH RETROFLEX HOOK
tC WITH RETROFLEX HOOKtS WITH CURL<1E000>aCOMBINING GLAGOLITIC LETTER AZUzdBUKYzdVEDEzdGLAGOLI
zdDOBROzdYESTUzdZHIVETE<1E008>zeEMLJAzdIZHEzeNITIAL IZHEzdIzdDJERVIzdKAKOzdLJUDIJEzdMYSLITEzdNASHI
zdONUzdPOKOJIzdRITSIzdSLOVOzdTVRIDOzdUKUzdFRITUzdHERU<1E01B>zdSHTAzdTSIzdCHRIVIzdSHAzdYERUzgIzeATI
<1E023>zeUzdSMALL YUS<1E026>zdYOzdIOTATED SMALL YUSzdBIG YUSzdIOTATED BIG YUSzdFITA
<1E100>aNYIAKENG PUACHUE HMONG LETTER MAzfTSAzfNTAzfTAzfHAzfNAzfXAzfNKAzfCAzfLAzfSAzfZAzfNCAzgTSA
zfKAzfDAzfNYAzgRAzfVAzfNTXAzfTXAzfFAzfRAzfQAzfYAzfNQAzfPAzfXYAzfNPAzfDLAzfNPLAzfHAHzfMLAzfPLAzfGA
zfRRAzfAzgAzfIzfUzfOzgOzfEzgEzfW<1E130>xTONE-BzdMzdJzdVzdSzdGzdDxSIGN FOR PERSONzhTHINGzhLOCATION
zhANIMALzhINVERTEBRATEzdXW XWyYLLABLE LENGTHENER<1E140>xDIGIT ZEROzeONEzeTWOzfHREEzeFOURzfIVEzeSIX
zfEVENzeEIGHTzeNINE<1E14E>xLOGOGRAM NYAJxCIRCLED CA<1E290>aTOTO LETTER PAmBAmTAmDAmKAmGAmMAmNAnGA
mSAmCHAmYAmWAmJAmHAmRAmLAmImBREATHY ImIUmBREATHY IUmUmEmBREATHY EmEOmBREATHY EOmOmAEmBREATHY AEmA
fSIGN RISING TONE<1E2C0>aWANCHO LETTER AAoAoBAoCAoDAoGAoYAoPHAoLAoNAoPAoTApHAoFAoSApHAoJAoZAoWAoVA
oKAoOoAUoRAoMAoKHAoHAoEoIoNGAoUoLLHAoTSApRAoONGoAANGpNGoINGoONoENoAANoNYAoUENoYIHhTONE TUPpNImKOI
pNIhDIGIT ZEROnONEnTWOoHREEnFOURoIVEnSIXoEVENnEIGHTnNINE<1E2FF>hNGUN SIGN
<1E7E0>aETHIOPIC SYLLABLE HHYAvUvIvAAvEEvEvO<1E7E8>sGURAGE HHWAsHHWIvEEvE<1E7ED>sGURAGE MWIzcEE
<1E7F0>zQWIzcEEzcEzBWIzcEEzKWIzcEEzcEzGWIzcEEzcEzFWIzcEEzPWIzcEE
<1E800>aMENDE KIKAKUI SYLLABLE M001 KIzb2 KAzb3 KUz65 KEEz95 KEz76 KOOz48 KOy179 KUAy004 WIzb5 WA
zb6 WUy126 WEEz18 WEzb4 WOOy045 WOy194 WUIz43 WEIy061 WVIz49 WVAy139 WVEy007 MINzb8 MANzb9 MUN
z59 MENz94 MONy154 MUANz89 MUENy010 BIzb1 BAzb2 BUy150 BEEy097 BEy103 BOOz38 BOy013 Izb4 Azb5 U
y163 EEz00 Ez65 OOz47 Oz37 EIzb1 INzb5 INz95 ANz78 ENy019 SIz20 SAzb1 SUy162 SEEz16 SEz36 SOO
y079 SOy196 SIAy025 LIzb6 LAzb7 LUz84 LEEz73 LEz54 LOOy153 LOz10 LONG LEy016 DIzb7 DAzb8 DUz89 DEE
y180 DOOzb1 DOy022 TIzb3 TAzb4 TUz91 TEEz55 TEy104 TOOy069 TOz28 JIzb9 JAz30 JUy157 JEEz13 JE
z60 JOOy063 JOy175 LONG JOy031 YIzb2 YAzb3 YUy109 YEEy080 YEy141 YOOz21 YOy034 FIzb5 FAzb6 FU
z78 FEEzb5 FEy133 FOOy088 FOy197 FUAz01 FANy037 NINzb8 NANzb9 NUNy117 NENz69 NONz76 HIy041 HA
y186 HUy040 HEEz96 HEz42 HOOy140 HOy083 HEEIy128 HOOUy053 HINy130 HANy087 HUNz52 HENy193 HON
y046 HUANz90 NGGIz43 NGGAz82 NGGUy115 NGGEEz46 NGGEz56 NGGOOz20 NGGOz59 NGGAAz27 NGGUA
y086 LONG NGGEy106 LONG NGGOOz83 LONG NGGOz55 GIz11 GAz68 GUz90 GEEz66 GUEIzb7 GUANz84 NGEN
y057 NGONy177 NGUANy068 PIz99 PAz50 PUz81 PEEz51 PEy102 POOy066 POy145 MBIy062 MBAy122 MBU
y047 MBEEy188 MBEEy072 MBEy172 MBOOzb4 MBOz87 MBUUz61 LONG MBEz05 LONG MBOOz42 LONG MBOz32 KPI
y092 KPAz74 KPUz44 KPEEy108 KPEz12 KPOOz58 KPOz24 GBIy056 GBAy148 GBUy093 GBEEy107 GBEy071 GBOO
zb0 GBOy171 RAz23 NDIzb9 NDAzb5 NDUz91 NDEEz19 NDEy067 NDOOzb4 NDOy152 NJAz92 NJUz49 NJEEz34 NJOO
z82 VIzb5 VAz51 VUz73 VEEy085 VEy144 VOOy077 VOy164 NYINy058 NYANy170 NYUNy098 NYENz60 NYON
<1E8C7>oDIGIT ONEuTWOvHREEuFOURvIVEuSIXvEVENuEIGHTuNINEoCOMBINING NUMBER TEENSziNSzgHUNDREDS
zgTHOUSANDSzhEN THOUSANDSzgHUNDRED THOUSANDSzgMILLIONS<1E900>aADLAM CAPITAL LETTER ALIFvDAALIvLAAM
vMIIMvBAvSINNYIIYHEvPEvBHEvRAvEvFAvIvOvDHAvYHEvWAWvNUNvKAFvYAvUvJIIMvCHIvHAvQAAFvGAvNYAvTUvNHAvVA
vKHAvGBEvZALvKPOvSHAgSMALL LETTER ALIFtDAALItLAAMtMIIMtBAtSINNYIIYHEtPEtBHEtRAtEtFAtItOtDHAtYHE
tWAWtNUNtKAFtYAtUtJIIMtCHItHAtQAAFtGAtNYAtTUtNHAtVAtKHAtGBEtZALtKPOtSHAgALIF LENGTHENER
gVOWEL LENGTHENERgGEMINATION MARKgHAMZAgCONSONANT MODIFIERgGEMINATE CONSONANT MODIFIERgNUKTA
hASALIZATION MARK<1E950>gDIGIT ZEROmONEmTWOnHREEmFOURnIVEmSIXnEVENmEIGHTmNINE
<1E95E>gINITIAL EXCLAMATION MARKoQUESTION MARK<1EC71>aINDIC SIYAQ NUMBER ONEtTWOuHREEtFOURuIVEtSIX
uEVENtEIGHTtNINEtTENuWENTYuHIRTYtFORTYuIFTYtSIXTYuEVENTYtEIGHTYtNINETYtONE HUNDREDtTWO HUNDRED
uHREE HUNDREDtFOUR HUNDREDuIVE HUNDREDtSIX HUNDREDuEVEN HUNDREDtEIGHT HUNDREDtNINE HUNDRED
tONE THOUSANDtTWO THOUSANDuHREE THOUSANDtFOUR THOUSANDuIVE THOUSANDtSIX THOUSANDuEVEN THOUSAND
tEIGHT THOUSANDtNINE THOUSANDtTEN THOUSANDuWENTY THOUSANDuHIRTY THOUSANDtFORTY THOUSAND
uIFTY THOUSANDtSIXTY THOUSANDuEVENTY THOUSANDtEIGHTY THOUSANDtNINETY THOUSANDtLAKHxANmLAKH MARK
mNUMBER KARORyANtPREFIXED ONEzdTWOzeHREEzdFOURzeIVEzdSIXzeEVENzdEIGHTzdNINEmPLACEHOLDER
mFRACTION ONE QUARTERzHALFvTHREE QUARTERSmRUPEE MARKmNUMBER ALTERNATE ONEzeTWOzfEN THOUSAND
mALTERNATE LAKH MARK<1ED01>aOTTOMAN SIYAQ NUMBER ONEvTWOwHREEvFOURwIVEvSIXwEVENvEIGHTvNINEvTEN
wWENTYwHIRTYvFORTYwIFTYvSIXTYwEVENTYvEIGHTYvNINETYvONE HUNDREDvTWO HUNDREDwHREE HUNDRED
vFOUR HUNDREDwIVE HUNDREDvSIX HUNDREDwEVEN HUNDREDvEIGHT HUNDREDvNINE HUNDREDvONE THOUSAND
vTWO THOUSANDwHREE THOUSANDvFOUR THOUSANDwIVE THOUSANDvSIX THOUSANDwEVEN THOUSANDvEIGHT THOUSAND
vNINE THOUSANDvTEN THOUSANDwWENTY THOUSANDwHIRTY THOUSANDvFORTY THOUSANDwIFTY THOUSAND
vSIXTY THOUSANDwEVENTY THOUSANDvEIGHTY THOUSANDvNINETY THOUSANDoMARRATANoALTERNATE NUMBER TWO
zhHREEzgFOURzhIVEzgSIXzhEVENzgEIGHTzgNINEzgTENzgFOUR HUNDREDzgSIX HUNDREDzgTWO THOUSAND
zhEN THOUSANDoFRACTION ONE HALFzcSIXTH<1EE00>aARABIC MATHEMATICAL ALEFuBEHuJEEMuDAL<1EE05>uWAW
uZAINuHAHuTAHuYEHuKAFuLAMuMEEMuNOONuSEENuAINuFEHuSADuQAFuREHuSHEENuTEHvHEHuKHAHuTHALuDADuZAHuGHAIN
uDOTLESS BEHzdNOONzdFEHzdQAF<1EE21>uINITIAL BEHzdJEEM<1EE24>zdHEH<1EE27>zeAH<1EE29>zdYEHzdKAFzdLAM
zdMEEMzdNOONzdSEENzdAINzdFEHzdSADzdQAF<1EE34>zdSHEENzdTEHzeHEHzdKHAH<1EE39>zdDAD<1EE3B>zdGHAIN
<1EE42>uTAILED JEEM<1EE47>zcHAH<1EE49>zcYEH<1EE4B>zcLAM<1EE4D>zcNOONzcSEENzcAIN<1EE51>zcSADzcQAF
<1EE54>zcSHEEN<1EE57>zcKHAH<1EE59>zcDAD<1EE5B>zcGHAIN<1EE5D>zcDOTLESS NOON<1EE5F>zkQAF
<1EE61>uSTRETCHED BEHzfJEEM<1EE64>zfHEH<1EE67>zgAHzfTAHzfYEHzfKAF<1EE6C>zfMEEMzfNOONzfSEENzfAIN
zfFEHzfSADzfQAF<1EE74>zfSHEENzfTEHzgHEHzfKHAH<1EE79>zfDADzfZAHzfGHAINzfDOTLESS BEH<1EE7E>znFEH
<1EE80>uLOOPED ALEFzcBEHzcJEEMzcDALzcHEHzcWAWzcZAINzcHAHzcTAHzcYEH<1EE8B>zcLAMzcMEEMzcNOONzcSEEN
zcAINzcFEHzcSADzcQAFzcREHzcSHEENzcTEHzdHEHzcKHAHzcTHALzcDADzcZAHzcGHAIN<1EEA1>uDOUBLE-STRUCK BEH
zjJEEMzjDAL<1EEA5>zjWAWzjZAINzjHAHzjTAHzjYEH<1EEAB>zjLAMzjMEEMzjNOONzjSEENzjAINzjFEHzjSADzjQAF
zjREHzjSHEENzjTEHzkHEHzjKHAHzjTHALzjDADzjZAHzjGHAIN<1EEF0>uOPERATOR MEEM WITH HAH WITH TATWEEL
zeHAH WITH DAL"

end Name
end Text
end WorkflowKit
