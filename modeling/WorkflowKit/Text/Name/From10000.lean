/-
# Names of characters from U+10000 to U+11FFF

The names are written as `WorkflowKit.Text.Name` says.
-/

namespace WorkflowKit
namespace Text
namespace Name

/-- The names of the characters from U+10000 to U+11FFF. -/
def namesFrom10000 : String := "
<10000>aLINEAR B SYLLABLE B008 Au38 Eu28 Iu61 Ou10 Uu01 DAu45 DEu07 DIu14 DOu51 DUv7 JAu46 JE
<1000D>u36 JOu65 JUu77 KAu44 KEu67 KIu70 KOu81 KUv0 MAu13 MEu73 MIu15 MOu23 MUu06 NAu24 NEu30 NI
u52 NOv5 NUu03 PAu72 PEu39 PIu11 POu50 PUu16 QAu78 QEu21 QIu32 QO<10028>u60 RAu27 REu53 RIu02 RO
u26 RUu31 SAu09 SEu41 SIu12 SOu58 SUv9 TAu04 TEu37 TIu05 TOu69 TUu54 WAu75 WEu40 WIv2 WO
<1003C>u17 ZAu74 ZE<1003F>u20 ZOv5 A2u43 A3u85 AUu71 DWEu90 DWOu48 NWAu29 PU2u62 PTEu76 RA2u33 RA3
u68 RO2v6 TA2u87 TWEu91 TWO<10050>lMBOL B018t9s22s34s47t9s56s63t4s79s82t3t6t9
<10080>jIDEOGRAM B100 MANv2 WOMANv4 DEERv5 EQUIDwF MAREwM STALLIONv6F EWEwM RAMv7F SHE-GOAT
wM HE-GOATv8F SOWwM BOARv9F COWwM BULLu20 WHEATv1 BARLEYv2 OLIVEv3 SPICEv5 CYPERUS
jMONOGRAM B127 KAPOv8 KANAKOjIDEOGRAM B130 OILv1 WINEv2jMONOGRAM B133 AREPAv5 MERI
jIDEOGRAM B140 BRONZEv1 GOLDv2v5 WOOLv6u50v1 HORNv2v3v4jMONOGRAM B156 TURO2jIDEOGRAM B157v8
v9 CLOTHu60v1v2 GARMENTv3 ARMOURv4v5v6v7v8v9u70v1v2v3 MONTHv4v6 TREEv7v8v9u80v1v2v3v4v5v9u90
v1 HELMETt220 FOOTSTOOLv5 BATHTUBu30 SPEARv1 ARROWv2v3 SWORDv4v6u40 WHEELED CHARIOTv1 CHARIOT
v2 CHARIOT FRAMEv3 WHEELv5v6jMONOGRAM B247 DIPTEjIDEOGRAM B248v9u51v2v3v4 DARTv5v6v7v8v9
sVESSEL B155zb200zd1zd2zd3zd4zd5zd6zd7zd8zd9zc10zd1zd2zd3zd4zd5zd6zd7zd8zd9zc21zd2zd6zd7zd8zd9zc50
zb305<10100>aAEGEAN WORD SEPARATOR LINEwDOThCHECK MARK<10107>hNUMBER ONEoTWOpHREEoFOURpIVEoSIX
pEVENoEIGHToNINEoTENpWENTYpHIRTYoFORTYpIFTYoSIXTYpEVENTYoEIGHTYoNINETYoONE HUNDREDoTWO HUNDRED
pHREE HUNDREDoFOUR HUNDREDpIVE HUNDREDoSIX HUNDREDpEVEN HUNDREDoEIGHT HUNDREDoNINE HUNDRED
oONE THOUSANDoTWO THOUSANDpHREE THOUSANDoFOUR THOUSANDpIVE THOUSANDoSIX THOUSANDpEVEN THOUSAND
oEIGHT THOUSANDoNINE THOUSANDoTEN THOUSANDpWENTY THOUSANDpHIRTY THOUSANDoFORTY THOUSAND
pIFTY THOUSANDoSIXTY THOUSANDpEVENTY THOUSANDoEIGHTY THOUSANDoNINETY THOUSAND
<10137>hWEIGHT BASE UNIToFIRST SUBUNIToSECOND SUBUNIToTHIRD SUBUNIToFOURTH SUBUNIT
hDRY MEASURE FIRST SUBUNIThLIQUID MEASURE FIRST SUBUNIThMEASURE SECOND SUBUNITpTHIRD SUBUNIT
aGREEK ACROPHONIC ATTIC ONE QUARTERzcHALFzcDRACHMAxFIVEzFTYzVE HUNDREDzdTHOUSANDzFTY THOUSAND
zVE TALENTSxTEN TALENTSxFIFTY TALENTSxONE HUNDRED TALENTSxFIVE HUNDRED TALENTS
xONE THOUSAND TALENTSxFIVE THOUSAND TALENTSzdSTATERSxTEN STATERSxFIFTY STATERSxONE HUNDRED STATERS
xFIVE HUNDRED STATERSxONE THOUSAND STATERSxTEN THOUSAND STATERSxFIFTY THOUSAND STATERSxTEN MNAS
rHERAEUM ONE PLETHRONrTHESPIAN ONErHERMIONIAN ONErEPIDAUREAN TWOrTHESPIAN TWO
rCYRENAIC TWO DRACHMASrEPIDAUREAN TWO DRACHMASrTROEZENIAN FIVEzdTENzg ALTERNATE FORM
rHERMIONIAN TENrMESSENIAN TENrTHESPIAN TENzcHIRTYsROEZENIAN FIFTYzi ALTERNATE FORM
rHERMIONIAN FIFTYrTHESPIAN FIFTYzbONE HUNDREDzbTHREE HUNDREDrEPIDAUREAN FIVE HUNDRED
rTROEZENIAN FIVE HUNDREDsHESPIAN FIVE HUNDREDrCARYSTIAN FIVE HUNDREDrNAXIAN FIVE HUNDRED
rTHESPIAN ONE THOUSANDzbFIVE THOUSANDrDELPHIC FIVE MNASrSTRATIAN FIFTY MNASgONE HALF SIGN
t ALTERNATE FORMgTWO THIRDS SIGNhHREE QUARTERS SIGNgYEAR SIGNgTALENT SIGNgDRACHMA SIGNgOBOL SIGN
gTWO OBOLS SIGNhHREE OBOLS SIGNgFOUR OBOLS SIGNhIVE OBOLS SIGNgMETRETES SIGNgKYATHOS BASE SIGN
gLITRA SIGNgOUNKIA SIGNgXESTES SIGNgARTABE SIGNiOURA SIGNgGRAMMA SIGNgTRYBLION BASE SIGNgZERO SIGN
gONE QUARTER SIGNgSINUSOID SIGNgINDICTION SIGNaNOMISMA SIGN<10190>aROMAN SEXTANS SIGNgUNCIA SIGN
gSEMUNCIA SIGNiXTULA SIGNgDIMIDIA SEXTULA SIGNgSILIQUA SIGNgDENARIUS SIGNgQUINARIUS SIGN
gSESTERTIUS SIGNgDUPONDIUS SIGNgAS SIGNgCENTURIAL SIGNaASCIA SYMBOL<101A0>aGREEK SYMBOL TAU RHO
<101D0>aPHAISTOS DISC SIGN PEDESTRIANuLUMED HEADtTATTOOED HEADtCAPTIVEuHILDtWOMANtHELMETtGAUNTLET
tTIARAtARROWtBOWtSHIELDtCLUBtMANACLESvTTOCKtSAWtLIDtBOOMERANGtCARPENTRY PLANEtDOLIUMtCOMBtSLING
tCOLUMNtBEEHIVEtSHIPtHORNuIDEtBULLS LEGtCATtRAMtEAGLEtDOVEtTUNNYtBEEtPLANE TREEtVINEtPAPYRUS
tROSETTEtLILYtOX BACKtFLUTEtGRATERtSTRAINERuMALL AXEtWAVY BANDtCOMBINING OBLIQUE STROKE
<10280>aLYCIAN LETTER AoEoBpHoGoDoIoWoZoTHoJoKoQoLoMoNoMMoNNoUoPoKKoRoSoTpToANoENoHoX
<102A0>aCARIAN LETTER AoP2oDoLoUUUoRoLDoA2oQoBoMoOoD2oToSHq2oSoC-18oUoNNoXoNoTT2oPoSSoIoEoUUUUoKp2
oNDoUUoGp2oSTq2oNGoIIoC-39oTToUUU2oRRoMBq2q3q4oLD2oE2oUUU3<102E0>bOPTIC EPACT THOUSANDS MARK
nDIGIT ONEtTWOuHREEtFOURuIVEtSIXuEVENtEIGHTtNINEnNUMBER TENvWENTYvHIRTYuFORTYvIFTYuSIXTYvEVENTY
uEIGHTYuNINETYuONE HUNDREDuTWO HUNDREDvHREE HUNDREDuFOUR HUNDREDvIVE HUNDREDuSIX HUNDRED
vEVEN HUNDREDuEIGHT HUNDREDuNINE HUNDRED<10300>aOLD ITALIC LETTER AsBEsKEsDEsEsVEsZEsHEsTHEsIsKA
sELtMtNtSHsOsPEsSHEsKUsERtSsTEsUsEKSsPHEsKHEsEFtRSsCHEsIIsUUsESSlNUMERAL ONEtFIVEtTENtFIFTY
<1032D>lLETTER YEsNORTHERN TSEsSOUTHERN TSEaGOTHIC LETTER AHSAoBAIRKANoGIBAoDAGSoAIHVUSoQAIRTHRA
oIUJAoHAGLoTHIUTHoEISoKUSMAoLAGUSoMANNAoNAUTHSoJERoURUSoPAIRTHRAoNINETYoRAIDAoSAUILoTEIWSoWINJA
oFAIHUoIGGWSoHWAIRoOTHALoNINE HUNDRED<10350>aOLD PERMIC LETTER ANsBURsGAIsDOIsEsZHOIsDZHOIsZATA
sDZITAsIsKOKEsLEIsMENOEsNENOEsVOOIsPEEIsREIsSIIsTAIsUsCHERYsSHOOIuCHOOIsYRYtERUsOtOsEFsHAsTSIUsVER
sYERvItATsIEsYUtAsIAaCOMBINING OLD PERMIC LETTER ANzdDOIzdZATAzdNENOEzdSII
<10380>aUGARITIC LETTER ALPAqBETAqGAMLAqKHAqDELTAqHOqWOqZETAqHOTAqTETqYODqKAFqSHINqLAMDAqMEMqDHAL
qNUNqZUqSAMKAqAINqPUqSADEqQOPAqRASHAqTHANNAqGHAINqTOqIqUqSSU<1039F>jWORD DIVIDER
aOLD PERSIAN SIGN ArIrUrKAsUrGAsUrXArCArJAsIrTAsUrDAsIsUrTHArPArBArFArNAsUrMAsIsUrYArVAsIrRAsUrLA
rSArZArSHAsSArHA<103C8>rAURAMAZDAAzc-2zcHArXSHAAYATHIYArDAHYAAUSHzb-2rBAGAsUUMISHmWORD DIVIDER
mNUMBER ONEtTWOuENuWENTYtHUNDRED<10400>aDESERET CAPITAL LETTER LONG IzdEzdAzeHzdOzeOxSHORT IzeEzeA
zfHzeOzfOxAYxOWxWUxYEExHxPEExBEExTEExDEExCHEExJEExKAYxGAYxEFxVEExETHxTHEExESxZEExESHxZHEExERyLyMyN
zGxOIxEWiSMALL LETTER LONG IzbEzbAzcHzbOzcOvSHORT IzcEzcAzdHzcOzdOvAYvOWvWUvYEEvHvPEEvBEEvTEEvDEE
vCHEEvJEEvKAYvGAYvEFvVEEvETHvTHEEvESvZEEvESHvZHEEvERwLwMwNxGvOIvEWaSHAVIAN LETTER PEEPpTOTpKICK
pFEEpTHIGHpSOqUREpCHURCHpYEApHUNGpBIBpDEADpGAGpVOWpTHEYpZOOpMEASUREpJUDGEpWOEpHA-HApLOLLpMIMEpIF
pEGGpASHqDOpONpWOOLpOUTpAHpROARpNUNpEATpAGEpICEpUPpOAKqOZEqILpAWEqREpORpAIRpERRpARRAYpEARpIANpYEW
aOSMANYA LETTER ALEFpBApTApJApXApKHApDEELpRApSAqHIINpDHApCAYNpGApFApQAAFpKAAFpLAANpMIINpNUUNpWAW
pHApYApApEpIpOpUpAApEEpOO<104A0>iDIGIT ZEROoONEoTWOpHREEoFOURpIVEoSIXpEVENoEIGHToNINE
<104B0>cAGE CAPITAL LETTER AwIxNwHvBRAvCHAvEHCHAvEwINvHAwYAvIvKAvEHKAvKYAvLAvMAvNAvOwINvPAvEHPAvSA
wHAvTAvEHTAvTSAvEHTSAvTSHAvDHAvUvWAvKHAvGHAvZAwHA<104D8>gSMALL LETTER AuIvNuHtBRAtCHAtEHCHAtEuIN
tHAuYAtItKAtEHKAtKYAtLAtMAtNAtOuINtPAtEHPAtSAuHAtTAtEHTAtTSAtEHTSAtTSHAtDHAtUtWAtKHAtGHAtZAuHA
<10500>aELBASAN LETTER ApBEpCEqHEpDEpNDEpDHEpEIpEpFEpGEqJEpHEpIpJEpKEpLEqLEpMEpNEqAqJEpOpPEpQEpRE
qREpSEqHEpTEqHEpUpVEpXEpYpZEqHEpGHErAMMApKHE<10530>aCAUCASIAN ALBANIAN LETTER ALTzbBETzbGIMzbDAT
zbEBzbZARLzbEYNzbZHILzbTASzbCHAzbYOWDzbZHAzbIRBzbSHAzbLANzbINYAzbXEYNzbDYANzbCARzbJHOXzbKARzbLYIT
zbHEYTzbQAYzbAORzbCHOYzdIzcYAYzbMAQzbQARzbNOWCzbDZYAYzbSHAKzbJAYNzbONzbTYAYzbFAMzbDZAYzbCHATzbPEN
zbGHEYSzbRATzbSEYKzbVEYZzbTIWRzbSHOYzbIWNzbCYAWzcAYNzbYAYDzbPIWRzbKIW<1056F>tCITATION MARK
aVITHKUQI CAPITAL LETTER AyBBEzEyCEzHEyDEzHEyEIyEyFEyGA<1057C>yHAzHAyIzJEyJEyKAyLAzLAyMEyNEzJEyO
yPEyQAyRE<1058C>ySEzHEyTEzHEyUyVEyXE<10594>yYyZE<10597>jSMALL LETTER AwBBExEwCExHEwDExHEwEIwEwFE
wGA<105A3>wHAxHAwIxJEwJEwKAwLAxLAwMEwNExJEwOwPEwQAwRE<105B3>wSExHEwTExHEwUwVEwXE<105BB>wYwZE
<10600>aLINEAR A SIGN AB001s2s3s4s5s6s7s8s9r10s1s3s6s7r20s1tFtMs2tFtMs3tMs4s6s7s8p028BpB029r30s1s4
s7s8s9r40s1s4s5s6s7s8s9r50s1s3s4s5s6s7s8s9r60s1s5s6s7s9r70s3s4s6s7s8s9r80s1s2s5s6s7p100-102pB118
r20p120BpB122s3r31AtBp131CpB164r71r80s8r91p301r2r3r4r5r6r7r8r9AsBsCq10r1r2r3AsBsCr4r5r6r7r8r9q20r1
r2r3r4r5r6r7r8r9q30r1r2r3r4r5r6r7r8r9q40r1r2r3r4r5r6r7r8r9q50r1r2r3r4r5r6r7r8r9q60r1r2r3r4r5r6r7r8
r9q70r1p400-VASr1-VASr2-VASr3-VASr4-VASr5-VASr6-VASr7-VASr8-VASr9-VASq10-VASr1-VASr2-VASr3-VAS
r4-VASr5-VASr6-VASr7-VASr8-VASp501r2r3r4r5r6r8r9q10r1r2r3r5r6q20r1r3r4r5r6r7r8r9q30r1r2r4r5r6r7r8
r9q40r1r2r5r7r8r9q50r1r2r3r4r5r6r7r9q63r4r5r6r8r9q70r1r2r3r4r5r6r7r8r9q80r1r2r3r4r5r6r7r8r9q91r2r4
r5r6r8p600r1r2r3r4r6r8r9q10r1r2r3r4r5r6r7r8r9q20r1r2r3r4r6r7r8r9q34r7r8q40r2r3r4r5r6r8r9q51r2r3r4
r5r6r7r8r9q60r1r2r3r4<10740>p701 Ar2 Br3 Dr4 Er5 Fr6 Hr7 Jr8 Kr9 Ls-2 L2t3 L3t4 L4t6 L6q10 Wr1 X
r2 Yr3 OMEGAr4 ABBr5 BBr7 DDq26 EYYYq32 JE<10760>p800r1r2r3r4r5r6r7
<10780>aMODIFIER LETTER SMALL CAPITAL AArUPERSCRIPT TRIANGULAR COLONzdHALF TRIANGULAR COLON
rMALL AEwCAPITAL BwB WITH HOOK<10787>wDZ DIGRAPHzh WITH RETROFLEX HOOKznCURLxEZH DIGRAPH
x WITH TAILzeHOOKzi AND TAILwREVERSED EwCLOSED REVERSED OPEN EwFENG DIGRAPHwRAMS HORNwCAPITAL G
wG WITH HOOKwCAPITAL G WITH HOOKwH WITH STROKEwCAPITAL HwHENG WITH HOOK
wDOTLESS J WITH STROKE AND HOOKwLS DIGRAPHxZ DIGRAPHx WITH BELTwCAPITAL L WITH BELT
wL WITH RETROFLEX HOOK AND BELTxEZHzb WITH RETROFLEX HOOKwTURNED Yzf WITH BELTwO WITH STROKE
wCAPITAL OExLOSED OMEGAwQwTURNED R WITH LONG LEGzt AND RETROFLEX HOOKwR WITH TAILzeFISHHOOK
wCAPITAL RwTC DIGRAPH WITH CURLxS DIGRAPHzh WITH RETROFLEX HOOKxESH DIGRAPHx WITH RETROFLEX HOOK
wV WITH RIGHT HOOK<107B2>wCAPITAL YqGLOTTAL STOP WITH STROKEqREVERSED GLOTTAL STOP WITH STROKE
qBILABIAL CLICKqDENTAL CLICKqLATERAL CLICKqALVEOLAR CLICKqRETROFLEX CLICK WITH RETROFLEX HOOK
qSMALL S WITH CURL<10800>aCYPRIOT SYLLABLE ArErIrOrUrJA<10808>sO<1080A>rKAsEsIsOsUrLAsEsIsOsUrMAsE
sIsOsUrNAsEsIsOsUrPAsEsIsOsUrRAsEsIsOsUrSAsEsIsOsUrTAsEsIsOsUrWAsEsIsO<10837>rXAsE<1083C>rZA
<1083F>sOaIMPERIAL ARAMAIC LETTER ALEPHyBETHyGIMELyDALETHyHEyWAWyZAYINyHETHyTETHyYODHyKAPHyLAMEDH
yMEMyNUNySAMEKHyAYINyPEySADHEyQOPHyRESHySHINyTAW<10857>rSECTION SIGNrNUMBER ONEyTWOzHREEzENzWENTY
yONE HUNDREDzdTHOUSANDyTEN THOUSANDaPALMYRENE LETTER ALEPHrBETHrGIMELrDALETHrHErWAWrZAYINrHETH
rTETHrYODHrKAPHrLAMEDHrMEMrFINAL NUNrNUNrSAMEKHrAYINrPErSADHErQOPHrRESHrSHINrTAW
mFT-POINTING FLEURONkRIGHT-POINTING FLEURONkNUMBER ONErTWOsHREErFOURsIVErTENsWENTY
aNABATAEAN LETTER FINAL ALEPHrALEPHrFINAL BETHrBETHrGIMELrDALETHrFINAL HErHErWAWrZAYINrHETHrTETH
rFINAL YODHrYODHrFINAL KAPHrKAPHrFINAL LAMEDHrLAMEDHrFINAL MEMrMEMrFINAL NUNrNUNrSAMEKHrAYINrPE
rSADHErQOPHrRESHrFINAL SHINrSHINrTAW<108A7>kNUMBER ONErTWOsHREErFOURkCRUCIFORM NUMBER FOUR
kNUMBER FIVErTENsWENTYrONE HUNDRED<108E0>aHATRAN LETTER ALEPHoBETHoGIMELoDALETH-RESHoHEoWAWoZAYN
oHETHoTETHoYODHoKAPHoLAMEDHoMEMoNUNoSAMEKHoAYNoPEoSADHEoQOPH<108F4>oSHINoTAW<108FB>hNUMBER ONE
oFIVEoTENpWENTYoONE HUNDREDaPHOENICIAN LETTER ALFsBETsGAMLsDELTsHEsWAUsZAIsHETsTETsYODsKAFsLAMD
sMEMsNUNsSEMKsAINsPEsSADEsQOFsROSHsSHINsTAUlNUMBER ONEsTENtWENTYsONE HUNDREDsTWOtHREE
<1091F>lWORD SEPARATORaLYDIAN LETTER AoBoGoDoEoVoIoYoKoLoMoNoOoRoSSoToUoFoQoSoTToANoENoLYoNNoC
<1093F>hTRIANGULAR MARK<10980>aMEROITIC HIEROGLYPHIC LETTER AzeEzeIzeOzeYAzeWAzeBAzg-2zePAzeMAzeNA
zg-2zfEzg-2zeRAzg-2zeLAzeKHAzeHHAzeSAzg-2zfEzeKAzeQAzeTAzg-2zfEzg-2zfOzeDAwSYMBOL VIDJzi-2
jCURSIVE LETTER AyEyIyOyYAyWAyBAyPAyMAyNAzEyRAyLAyKHAyHHAySAyARCHAIC SAySEyKAyQAyTAzEzOyDA
<109BC>rFRACTION ELEVEN TWELFTHSzbONE HALFrLOGOGRAM RMTzbIMNrNUMBER ONEyTWOzHREEyFOURzIVEySIXzEVEN
yEIGHTyNINEyTENzWENTYzHIRTYyFORTYzIFTYySIXTYzEVENTY<109D2>yONE HUNDREDyTWO HUNDREDzHREE HUNDRED
yFOUR HUNDREDzIVE HUNDREDySIX HUNDREDzEVEN HUNDREDyEIGHT HUNDREDyNINE HUNDREDyONE THOUSAND
yTWO THOUSANDzHREE THOUSANDyFOUR THOUSANDzIVE THOUSANDySIX THOUSANDzEVEN THOUSANDyEIGHT THOUSAND
yNINE THOUSANDyTEN THOUSANDzWENTY THOUSANDzHIRTY THOUSANDyFORTY THOUSANDzIFTY THOUSAND
ySIXTY THOUSANDzEVENTY THOUSANDyEIGHTY THOUSANDyNINETY THOUSANDyONE HUNDRED THOUSAND
yTWO HUNDRED THOUSANDzHREE HUNDRED THOUSANDyFOUR HUNDRED THOUSANDzIVE HUNDRED THOUSAND
ySIX HUNDRED THOUSANDzEVEN HUNDRED THOUSANDyEIGHT HUNDRED THOUSANDyNINE HUNDRED THOUSAND
rFRACTION ONE TWELFTHzbTWO TWELFTHSzcHREE TWELFTHSzbFOUR TWELFTHSzcIVE TWELFTHSzbSIX TWELFTHS
zcEVEN TWELFTHSzbEIGHT TWELFTHSzbNINE TWELFTHSzbTEN TWELFTHSaKHAROSHTHI LETTER AlVOWEL SIGN IwU
wVOCALIC R<10A05>wEwO<10A0C>rLENGTH MARKlSIGN DOUBLE RING BELOWqANUSVARAqVISARGAlLETTER KAtHAsGA
tHA<10A15>sCAtHAsJA<10A19>sNYAsTTAuHAsDDAuHAsNNAsTAtHAsDAtHAsNAsPAtHAsBAtHAsMAsYAsRAsLAsVAsSHAtSA
tAsZAsHAsKKAsTTTHAvAsVHA<10A38>lSIGN BAR ABOVEqCAUDAqDOT BELOW<10A3F>lVIRAMAlDIGIT ONErTWOsHREE
rFOURlNUMBER TENtWENTYsONE HUNDREDwTHOUSANDlFRACTION ONE HALF<10A50>lPUNCTUATION DOTxSMALL CIRCLE
xCIRCLEyRESCENT BARxMANGALAMxLOTUSxDANDAyOUBLE DANDAxLINES<10A60>aOLD SOUTH ARABIAN LETTER HE
zLAMEDHzHETHzMEMzQOPHzWAWzSHINzRESHzBETHzTAWzSATzKAPHzNUNzKHETHzSADHEzcMEKHzFEzALEFzbYNzDHADHE
zGIMELzDALETHzGHAYNzTETHzZAYNzDHALETHzYODHzTHAWzcETHsNUMBER ONEzFIFTYvERIC INDICATOR
eNORTH ARABIAN LETTER HEHzLAMzHAHzMEEMzQAFzWAWzES-2zREHzBEHzTEHzES-1zKAFzNOONzKHAHzSADzES-3zFEH
zALEFzbINzDADzGEEMzDALzGHAINzTAHzZAINzTHALzYEHzTHEHzZAHsNUMBER ONEzTENzbWENTY
<10AC0>aMANICHAEAN LETTER ALEPHsBETHtHETHsGIMELtHIMELsDALETHsHEsWAWlSIGN UDlLETTER ZAYINtHAYIN
sJAYINtHAYINsHETHsTETHsYODHsKAPHsXAPHsKHAPHsLAMEDHsDHAMEDHsTHAMEDHsMEMsNUNsSAMEKHsAYINtAYINsPEsFE
sSADHEsQOPHsXOPHsQHOPHsRESHsSHINtSHINsTAWlABBREVIATION MARK ABOVEzeBELOW<10AEB>lNUMBER ONEsFIVE
sTENtWENTYsONE HUNDREDlPUNCTUATION STARxFLEURONxDOUBLE DOT WITHIN DOTzT WITHIN DOTzTxTWO DOTS
xLINE FILLER<10B00>aAVESTAN LETTER AqAqOqAOqNqANqErEpEqEpOqOpIqIpUqUpKEpXEqYEqVEpGEqGEqHEpCEpJEpTE
qHEpDEqHEpTTEpPEpFEpBEqHEpNGErYErVEqEqYEqNEpMEpHMEpYYEqEpVEpREpLEpSEpZEpSHEpZHEpSHYEqSHEpHE
<10B39>iABBREVIATION MARKaTINY TWO DOTS OVER ONE DOT PUNCTUATION
aSMALL TWO DOTS OVER ONE DOT PUNCTUATIONaLARGE TWO DOTS OVER ONE DOT PUNCTUATION
gONE DOT OVER TWO DOTS PUNCTUATIONgTWO RINGS OVER ONE RING PUNCTUATION
gONE RING OVER TWO RINGS PUNCTUATIONaINSCRIPTIONAL PARTHIAN LETTER ALEPHzfBETHzfGIMELzfDALETHzfHE
zfWAWzfZAYINzfHETHzfTETHzfYODHzfKAPHzfLAMEDHzfMEMzfNUNzfSAMEKHzfAYINzfPEzfSADHEzfQOPHzfRESHzfSHIN
zfTAW<10B58>xNUMBER ONEzfTWOzgHREEzfFOURzfTENzgWENTYzfONE HUNDREDzjTHOUSANDqHLAVI LETTER ALEPH
zeBETHzeGIMELzeDALETHzeHEzeWAW-AYIN-RESHzeZAYINzeHETHzeTETHzeYODHzeKAPHzeLAMEDHzeMEM-QOPHzeNUN
zeSAMEKHzePEzeSADHEzfHINzeTAW<10B78>wNUMBER ONEzeTWOzfHREEzeFOURzeTENzfWENTYzeONE HUNDRED
ziTHOUSANDaPSALTER PAHLAVI LETTER ALEPHxBETHxGIMELxDALETHxHExWAW-AYIN-RESHxZAYINxHETHxYODHxKAPH
xLAMEDHxMEM-QOPHxNUNxSAMEKHxPExSADHEyHINxTAW<10B99>qSECTION MARKqTURNED SECTION MARK
qFOUR DOTS WITH CROSSzgDOT<10BA9>qNUMBER ONExTWOyHREExFOURxTENyWENTYxONE HUNDRED
<10C00>aOLD TURKIC LETTER ORKHON AsYENISEI AzcEsORKHON IsYENISEI IzbEsORKHON OzbEsYENISEI OE
sORKHON ABsYENISEI ABsORKHON AEBsYENISEI AEBsORKHON AGsYENISEI AGsORKHON AEGsYENISEI AEGsORKHON AD
sYENISEI ADsORKHON AEDzEZsYENISEI EZsORKHON AYsYENISEI AYsORKHON AEYsYENISEI AEYsORKHON AEK
sYENISEI AEKsORKHON OEKsYENISEI OEKsORKHON ALsYENISEI ALsORKHON AELzELTzbMzANzbENsYENISEI AEN
sORKHON ENTsYENISEI ENTsORKHON ENCsYENISEI ENCsORKHON ENYsYENISEI ENYzbANGsORKHON ENGsYENISEI AENG
sORKHON EPzOPzICzECsYENISEI ECsORKHON AQsYENISEI AQsORKHON IQsYENISEI IQsORKHON OQsYENISEI OQ
sORKHON ARsYENISEI ARsORKHON AERzbSzbESzbSHsYENISEI ASHsORKHON ESHsYENISEI ESHsORKHON AT
sYENISEI ATsORKHON AETsYENISEI AETsORKHON OTzBASH<10C80>eHUNGARIAN CAPITAL LETTER AzfAzeEBzeAMB
zeECzfNCzfCSzfDzeANDzeEzeCLOSE EzeEEzfFzfGzgYzfHzeIzfIzeEJzfKzeAKzeUNKzeELzgYzfMzfNzgYzeOzfO
zeNIKOLSBURG OEzeRUDIMENTA OEzeOEEzeEPzfMPzfRzeSHORT ERzeESzgZzfTzfNTzfTYzfCHzeUzfUzeNIKOLSBURG UE
zeRUDIMENTA UEzeEVzfZzgSzfNT-SHAPED SIGNzeUS<10CC0>oSMALL LETTER AzdAzcEBzcAMBzcECzdNCzdCSzdDzcAND
zcEzcCLOSE EzcEEzdFzdGzeYzdHzcIzdIzcEJzdKzcAKzcUNKzcELzeYzdMzdNzeYzcOzdOzcNIKOLSBURG OE
zcRUDIMENTA OEzcOEEzcEPzdMPzdRzcSHORT ERzcESzeZzdTzdNTzdTYzdCHzcUzdUzcNIKOLSBURG UEzcRUDIMENTA UE
zcEVzdZzeSzdNT-SHAPED SIGNzcUS<10CFA>oNUMBER ONEvFIVEvTENvFIFTYvONE HUNDREDzTHOUSAND
aHANIFI ROHINGYA LETTER AxBAxPAxTAyTAxJAxCAxHAxKHAxFAxDAyDAxRAyRAxZAxSAyHAxKAxGAxLAxMAxNAxWA
xKINNA WAxYAxKINNA YAxNGAyYAxVAqVOWEL AwIwUwEwOqMARK SAKINvNA KHONNAqSIGN HARBAHAYvTAHALAxNAxSSI
<10D30>qDIGIT ZEROwONEwTWOxHREEwFOURxIVEwSIXxEVENwEIGHTwNINE<10E60>aRUMI DIGIT ONElTWOmHREElFOUR
mIVElSIXmEVENlEIGHTlNINEfNUMBER TENnWENTYnHIRTYmFORTYnIFTYmSIXTYnEVENTYmEIGHTYmNINETYmONE HUNDRED
mTWO HUNDREDnHREE HUNDREDmFOUR HUNDREDnIVE HUNDREDmSIX HUNDREDnEVEN HUNDREDmEIGHT HUNDRED
mNINE HUNDREDfFRACTION ONE HALFsQUARTERsTHIRDoTWO THIRDS<10E80>aYEZIDI LETTER ELIFoBEoPEpHEoTHEoSE
oCIMpHIMqHIMoHHAoXAoDALoZALoRApHAoZAoJAoSINpHINpADoDADoTAoZEoEYNoXHEYNoFAoVAq ALTERNATE FORMoQAF
oKAFpHAFoGAFoLAMoMIMoNUNoUMoWAWoOWoEWoHAYoYOToET<10EAB>hCOMBINING HAMZA MARKrMADDA MARK
hHYPHENATION MARK<10EB0>hLETTER LAM WITH DOT ABOVEoYOT WITH CIRCUMFLEX ABOVE
<10F00>aOLD SOGDIAN LETTER ALEPHtFINAL ALEPHtBETHtFINAL BETHtGIMELtHEtFINAL HEtWAWtZAYINtHETHtYODH
tKAPHtLAMEDHtMEMtNUNtFINAL NUNzd WITH VERTICAL TAILtSAMEKHtAYINuLTERNATE AYINtPEtSADHEtFINAL SADHE
zf WITH VERTICAL TAILtRESH-AYIN-DALETHtSHINtTAWtFINAL TAWzd WITH VERTICAL TAILmNUMBER ONEtTWOuHREE
tFOURuIVEtTENuWENTYuHIRTYtONE HUNDREDmFRACTION ONE HALFmLIGATURE AYIN-DALETH
<10F30>aSOGDIAN LETTER ALEPHpBETHpGIMELpHEpWAWpZAYINpHETHpYODHpKAPHpLAMEDHpMEMpNUNpSAMEKHpAYINpPE
pSADHEpRESH-AYINpSHINpTAWpFETHpLESHiINDEPENDENT SHINiCOMBINING DOT BELOWsTWO DOTS BELOWsDOT ABOVE
sTWO DOTS ABOVEsCURVE ABOVEyBELOWsHOOK ABOVExBELOWsLONG HOOK BELOWsRESH BELOWsSTROKE BELOW
iNUMBER ONEpTENqWENTYpONE HUNDREDiPUNCTUATION TWO VERTICAL BARSzm WITH DOTSuCIRCLE WITH DOT
uTWO CIRCLES WITH DOTSuHALF CIRCLE WITH DOT<10F70>aOLD UYGHUR LETTER ALEPHsBETHsGIMEL-HETHsWAW
sZAYINsFINAL HETHsYODHsKAPHsLAMEDHsMEMsNUNsSAMEKHsPEsSADHEsRESHsSHINsTAWsLESHlCOMBINING DOT ABOVE
zBELOWvTWO DOTS ABOVEzfBELOWlPUNCTUATION BARxTWO BARSzcDOTSxFOUR DOTS
<10FB0>aCHORASMIAN LETTER ALEPHsSMALL ALEPHsBETHsGIMELsDALETHsHEsWAWsCURLED WAWsZAYINsHETHsYODH
sKAPHsLAMEDHsMEMsNUNsSAMEKHsAYINsPEsRESHsSHINsTAWlNUMBER ONEsTWOtHREEsFOURsTENtWENTYsONE HUNDRED
<10FE0>aELYMAIC LETTER ALEPHpBETHpGIMELpDALETHpHEpWAWpZAYINpHETHpTETHpYODHpKAPHpLAMEDHpMEMpNUN
pSAMEKHpAYINpPEpSADHEpQOPHpRESHpSHINpTAWjIGATURE ZAYIN-YODH<11000>aBRAHMI SIGN CANDRABINDU
mANUSVARAmVISARGAmJIHVAMULIYAmUPADHMANIYAhLETTER ApAoIpIoUpUoVOCALIC RxRwLxLoEoAIoOoAUoKApHAoGApHA
oNGAoCApHAoJApHAoNYAoTTAqHAoDDAqHAoNNAoTApHAoDApHAoNAoPApHAoBApHAoMAoYAoRAoLAoVAoSHApSApAoHAoLLA
oOLD TAMIL LLLAyRRAyNNNAhVOWEL SIGN AAsBHATTIPROLU AAsItIsUtUsVOCALIC RzcRzbLzcLsEsAIsOsAUiIRAMA
hDANDAiOUBLE DANDAhPUNCTUATION DOTvUBLE DOTtLINEtCRESCENT BARtLOTUS<11052>hNUMBER ONEoTWOpHREE
oFOURpIVEoSIXpEVENoEIGHToNINEoTENpWENTYpHIRTYoFORTYpIFTYoSIXTYpEVENTYoEIGHTYoNINETYoONE HUNDRED
sTHOUSANDhDIGIT ZEROnONEnTWOoHREEnFOURoIVEnSIXoEVENnEIGHTnNINEhSIGN OLD TAMIL VIRAMA
hLETTER OLD TAMIL SHORT EzfOhVOWEL SIGN OLD TAMIL SHORT EzjOhLETTER OLD TAMIL LLA
<1107F>hNUMBER JOINERaKAITHI SIGN CANDRABINDUmANUSVARAmVISARGAhLETTER ApAoIpIoUpUoEoAIoOoAUoKApHA
oGApHAoNGAoCApHAoJApHAoNYAoTTAqHAoDDAqDHAqHAoRHAoNNAoTApHAoDApHAoNAoPApHAoBApHAoMAoYAoRAoLAoVAoSHA
pSApAoHAhVOWEL SIGN AAsItIsUtUsEsAIsOsAUhSIGN VIRAMAmNUKTAhABBREVIATION SIGNhENUMERATION SIGN
hNUMBER SIGNhSECTION MARKhDOUBLE SECTION MARKiANDAiOUBLE DANDAhVOWEL SIGN VOCALIC R
<110CD>hNUMBER SIGN ABOVE<110D0>aSORA SOMPENG LETTER SAHuTAHuBAHuCAHuDAHuGAHuMAHuNGAHuLAHuNAHuVAH
uPAHuYAHuRAHuHAHuKAHuJAHuNYAHuAHuEEHuIHuUHuOHuEHuMAE<110F0>nDIGIT ZEROtONEtTWOuHREEtFOURuIVEtSIX
uEVENtEIGHTtNINE<11100>aCHAKMA SIGN CANDRABINDUmANUSVARAmVISARGAhLETTER AAoIoUoEoKAApHAAoGAApHAA
oNGAAoCAApHAAoJAApHAAoNYAAoTTAAqHAAoDDAAqHAAoNNAAoTAApHAAoDAApHAAoNAAoPAApHAAoBAApHAAoMAAoYYAApAA
oRAAoLAAoWAAoSAAoHAAhVOWEL SIGN AsItIsUtUsEsAIsOsAUsOIhO MARKhAU MARKhVIRAMAhMAAYYAA
<11136>hDIGIT ZEROnONEnTWOoHREEnFOURoIVEnSIXoEVENnEIGHTnNINEhSECTION MARKhDANDAiOUBLE DANDA
hQUESTION MARKhLETTER LHAAhVOWEL SIGN AAsEIhLETTER VAA<11150>aMAHAJANI LETTER AqIqUqEqOqKArHAqGA
rHAqCArHAqJArHAqNYAqTTAsHAqDDAsHAqNNAqTArHAqDArHAqNAqPArHAqBArHAqMAqRAqLAqVAqSAqHAqRRAjSIGN NUKTA
jABBREVIATION SIGNjSECTION MARKjLIGATURE SHRI<11180>aSHARADA SIGN CANDRABINDUnANUSVARAnVISARGA
iLETTER AqApIqIpUqUpVOCALIC RyRxLyLpEpAIpOpAUpKAqHApGAqHApNGApCAqHApJAqHApNYApTTArHApDDArHApNNApTA
qHApDAqHApNApPAqHApBAqHApMApYApRApLAqLApVApSHAqSAqApHAiVOWEL SIGN AAtIuItUuUtVOCALIC RzdRzcLzdLtE
tAItOtAUiSIGN VIRAMAnAVAGRAHAnJIHVAMULIYAnUPADHMANIYAiOMiDANDAjOUBLE DANDAiABBREVIATION SIGN
iSEPARATORjANDHI MARKjIGN NUKTAiVOWEL MODIFIER MARKiEXTRA SHORT VOWEL MARKiSUTRA MARK
iVOWEL SIGN PRISHTHAMATRA EiSIGN INVERTED CANDRABINDUiDIGIT ZEROoONEoTWOpHREEoFOURpIVEoSIXpEVEN
oEIGHToNINEiEKAMiSIGN SIDDHAMiHEADSTROKEiCONTINUATION SIGNiSECTION MARK-1v2
<111E1>bINHALA ARCHAIC DIGIT ONEwTWOxHREEwFOURxIVEwSIXxEVENwEIGHTwNINEqNUMBER TENyWENTYyHIRTY
xFORTYyIFTYxSIXTYyEVENTYxEIGHTYxNINETYxONE HUNDREDzcTHOUSAND<11200>aKHOJKI LETTER ApAoIoUoEoAIoO
oAUoKApHAoGApGApHAoNGAoCApHAoJApJA<11213>oNYAoTTAqHAoDDAqHAoNNAoTApHAoDApDDApHAoNAoPApHAoBApBApHA
oMAoYAoRAoLAoVAoSAoHAoLLAhVOWEL SIGN AAsItIsUsEsAIsOsAUhSIGN ANUSVARAmVIRAMAmNUKTAmSHADDAhDANDA
iOUBLE DANDAhWORD SEPARATORhSECTION MARKhDOUBLE SECTION MARKhABBREVIATION SIGNhSIGN SUKUN
<11280>aMULTANI LETTER ApIpUpEpKAqHApGA<11288>qHA<1128A>pCAqHApJAqJA<1128F>pNYApTTArHApDDArDArHA
pNNApTAqHApDAqHApNApPAqHApBA<1129F>qHApMApYApRApLApVApSApHApRRAqHAiSECTION MARK
<112B0>aKHUDAWADI LETTER AsArIsIrUsUrErAIrOrAUrKAsHArGAsGAsHArNGArCAsHArJAsJAsHArNYArTTAtHArDDAtDA
rRRArDDHArNNArTAsHArDAsHArNArPAsHArBAsBAsHArMArYArRArLArVArSHAsArHAkSIGN ANUSVARAkVOWEL SIGN AAvI
wIvUwUvEvAIvOvAUkSIGN NUKTApVIRAMA<112F0>kDIGIT ZEROqONEqTWOrHREEqFOURrIVEqSIXrEVENqEIGHTqNINE
<11300>aGRANTHA SIGN COMBINING ANUSVARA ABOVEoANDRABINDUnANUSVARAnVISARGA<11305>iLETTER AqApIqIpU
qUpVOCALIC RxL<1130F>pEEpAI<11313>pOOpAUpKAqHApGAqHApNGApCAqHApJAqHApNYApTTArHApDDArHApNNApTAqHA
pDAqHApNA<1132A>pPAqHApBAqHApMApYApRA<11332>pLAqLA<11335>pVApSHAqSAqApHA
<1133B>aCOMBINING BINDU BELOWaGRANTHA SIGN NUKTAnAVAGRAHAiVOWEL SIGN AAtIuItUuUtVOCALIC RzdR
<11347>tEEtAI<1134B>tOOtAUiSIGN VIRAMA<11350>iOM<11357>iAU LENGTH MARK<1135D>iSIGN PLUTA
iLETTER VEDIC ANUSVARAvDOUBLE ANUSVARAqOCALIC RRxLLiVOWEL SIGN VOCALIC LzdL
<11366>aCOMBINING GRANTHA DIGIT ZEROyONEyTWOzHREEyFOURzIVEySIX<11370>sLETTER AzKAzNAzVIzPA
<11400>aNEWA LETTER AnAmInImUnUmVOCALIC RvRuLvLmEmAImOmAUmKAnHAmGAnHAmNGAoHAmCAnHAmJAnHAmNYAoHA
mTTAoHAmDDAoHAmNNAmTAnHAmDAnHAmNAnHAmPAnHAmBAnHAmMAnHAmYAmRAnHAmLAnHAmWAmSHAnSAnAmHAfVOWEL SIGN AA
qIrIqUrUqVOCALIC RzRyLzLqEqAIqOqAUfSIGN VIRAMAkCANDRABINDUkANUSVARAkVISARGAkNUKTAkAVAGRAHA
kFINAL ANUSVARAfOMfSIDDHIfDANDAgOUBLE DANDAfCOMMAfGAP FILLERfABBREVIATION SIGNfDIGIT ZEROlONElTWO
mHREElFOURmIVElSIXmEVENlEIGHTlNINEgOUBLE COMMAfPLACEHOLDER MARK<1145D>fINSERTION SIGNfSANDHI MARK
fLETTER VEDIC ANUSVARAfSIGN JIHVAMULIYAkUPADHMANIYA<11480>aTIRHUTA ANJIiLETTER AqApIqIpUqU
pVOCALIC RyRxLyLpEpAIpOpAUpKAqHApGAqHApNGApCAqHApJAqHApNYApTTArHApDDArHApNNApTAqHApDAqHApNApPAqHA
pBAqHApMApYApRApLApVApSHAqSAqApHAiVOWEL SIGN AAtIuItUuUtVOCALIC RzdRzcLzdLtEtSHORT EtAItOtSHORT O
tAUiSIGN CANDRABINDUnANUSVARAnVISARGApRAMAnNUKTAnAVAGRAHAiGVANGiABBREVIATION SIGNiOM
<114D0>iDIGIT ZEROoONEoTWOpHREEoFOURpIVEoSIXpEVENoEIGHToNINE<11580>aSIDDHAM LETTER AqApIqIpUqU
pVOCALIC RyRxLyLpEpAIpOpAUpKAqHApGAqHApNGApCAqHApJAqHApNYApTTArHApDDArHApNNApTAqHApDAqHApNApPAqHA
pBAqHApMApYApRApLApVApSHAqSAqApHAiVOWEL SIGN AAtIuItUuUtVOCALIC RzdR<115B8>tEtAItOtAU
iSIGN CANDRABINDUnANUSVARAnVISARGApRAMAnNUKTAnSIDDHAMiDANDAjOUBLE DANDAiSEPARATOR DOTsBAR
iREPETITION MARK-1y2y3iEND OF TEXT MARKiSECTION MARK WITH TRIDENT AND U-SHAPED ORNAMENTS
znDOTTED CRESCENTSzbRAYS AND DOTTED CRESCENTSzrDOUBLE CRESCENTSzrTRIPLE CRESCENTSvDOUBLE RING
zh WITH RAYSvWITH DOUBLE CRESCENTSzbTRIPLE CRESCENTSzbQUADRUPLE CRESCENTSzbSEPTUPLE CRESCENTS
zbCIRCLES AND RAYSznTWO ENCLOSURESznFOUR ENCLOSURESiLETTER THREE-CIRCLE ALTERNATE I
qWO-CIRCLE ALTERNATE IzmIpALTERNATE UiVOWEL SIGN ALTERNATE UzfU<11600>aMODI LETTER AnAmInImUnU
mVOCALIC RvRuLvLmEmAImOmAUmKAnHAmGAnHAmNGAmCAnHAmJAnHAmNYAmTTAoHAmDDAoHAmNNAmTAnHAmDAnHAmNAmPAnHA
mBAnHAmMAmYAmRAmLAmVAmSHAnSAnAmHAmLLAfVOWEL SIGN AAqIrIqUrUqVOCALIC RzRyLzLqEqAIqOqAU
fSIGN ANUSVARAkVISARGAmRAMAkARDHACANDRAfDANDAgOUBLE DANDAfABBREVIATION SIGNfSIGN HUVA
<11650>fDIGIT ZEROlONElTWOmHREElFOURmIVElSIXmEVENlEIGHTlNINE<11660>cNGOLIAN BIRGA WITH ORNAMENT
kROTATED BIRGAkDOUBLE BIRGA WITH ORNAMENTkTRIPLE BIRGA WITH ORNAMENTkBIRGA WITH DOUBLE ORNAMENT
kROTATED BIRGA WITH ORNAMENTzeDOUBLE ORNAMENTkINVERTED BIRGAy WITH DOUBLE ORNAMENTkSWIRL BIRGA
v WITH ORNAMENTzcDOUBLE ORNAMENTkTURNED SWIRL BIRGA WITH DOUBLE ORNAMENT<11680>aTAKRI LETTER AoAnI
oInUoUnEnAInOnAUnKAoHAnGAoHAnNGAnCAoHAnJAoHAnNYAnTTApHAnDDApHAnNNAnTAoHAnDAoHAnNAnPAoHAnBAoHAnMA
nYAnRAnLAnVAnSHAoAnHAnRRAgSIGN ANUSVARAlVISARGAgVOWEL SIGN AArIsIrUsUrErAIrOrAUgSIGN VIRAMAlNUKTA
gLETTER ARCHAIC KHAgABBREVIATION SIGN<116C0>gDIGIT ZEROmONEmTWOnHREEmFOURnIVEmSIXnEVENmEIGHTmNINE
<11700>aAHOM LETTER KAnHAmNGAnAmTAmALTERNATE TAmPAnHAmBAmMAmJAmCHAmTHAmRAmLAmSAmNYAmHAmAmDAnHAmGA
mALTERNATE GAmGHAmBHAmJHAmALTERNATE BA<1171D>fCONSONANT SIGN MEDIAL LAzcRAzcLIGATING RA
fVOWEL SIGN ArAqIrIqUrUqEqAWqOqAIrMfSIGN KILLER<11730>fDIGIT ZEROlONElTWOmHREElFOURmIVElSIXmEVEN
lEIGHTlNINEfNUMBER TENnWENTYfSIGN SMALL SECTIONlECTIONkRULAIgYMBOL VIfLETTER CAmTTAoHAmDDAoHAmNNA
mLLA<11800>aDOGRA LETTER AoAnIoInUoUnEnAInOnAUnKAoHAnGAoHAnNGAnCAoHAnJAoHAnNYAnTTApHAnDDApHAnNNA
nTAoHAnDAoHAnNAnPAoHAnBAoHAnMAnYAnRAnLAnVAnSHAoSAoAnHAnRRAgVOWEL SIGN AArIsIrUsUrVOCALIC RzbRrErAI
rOrAUgSIGN ANUSVARAlVISARGAnRAMAlNUKTAgABBREVIATION SIGN<118A0>aWARANG CITI CAPITAL LETTER NGAAzcA
zcWIzcYUzdAzdOzcIIzcUUzcEzcOzcANGzcGAzcKOzcENYzcYUJzcUCzcENNzcODDzcTTEzcNUNGzcDAzcATzdMzcBUzcPU
zcHIYOzdOLOzeRRzdARzcSSUUzdIIzcVIYOmSMALL LETTER NGAAzAzWIzYUzbAzbOzIIzUUzEzOzANGzGAzKOzENYzYUJzUC
zENNzODDzTTEzNUNGzDAzATzbMzBUzPUzHIYOzbOLOzcRRzbARzSSUUzbIIzVIYOmDIGIT ZEROsONEsTWOtHREEsFOURtIVE
sSIXtEVENsEIGHTsNINEmNUMBER TENuWENTYuHIRTYtFORTYuIFTYtSIXTYuEVENTYtEIGHTYtNINETY<118FF>mOM
aDIVES AKURU LETTER AuAtIuItUuUtE<11909>tO<1190C>tKAuHAtGAuHAtNGAtCAuHAtJA<11915>tNYAtTTA
<11918>tDDAvHAtNNAtTAuHAtDAuHAtNAtPAuHAtBAuHAtMAtYAuYAtRAtLAtVAtSHAuSAuAtHAtLLAtZAmVOWEL SIGN AAxI
yIxUyUxE<11937>xAIxO<1193B>mSIGN ANUSVARArCANDRABINDUrHALANTAmVIRAMAmPREFIXED NASAL SIGNmMEDIAL YA
mINITIAL RAmMEDIAL RAmSIGN NUKTAmDOUBLE DANDAmGAP FILLERmEND OF TEXT MARK<11950>mDIGIT ZEROsONE
sTWOtHREEsFOURtIVEsSIXtEVENsEIGHTsNINE<119A0>aNANDINAGARI LETTER AuAtIuItUuUtVOCALIC RzdR<119AA>tE
tAItOtAUtKAuHAtGAuHAtNGAtCAuHAtJAuHAtNYAtTTAvHAtDDAvHAtNNAtTAuHAtDAuHAtNAtPAuHAtBAuHAtMAtYAtRAtLA
tVAtSHAuSAuAtHAtLLAtRRAmVOWEL SIGN AAxIyIxUyUxVOCALIC RzhR<119DA>xExAIxOxAUmSIGN ANUSVARArVISARGA
tRAMArAVAGRAHArSIDDHAMmHEADSTROKEmVOWEL SIGN PRISHTHAMATRA E<11A00>aZANABAZAR SQUARE LETTER A
rVOWEL SIGN IzdUEzdUzdEzdOEzdOzdAIzeUzdREVERSED IxLENGTH MARKrLETTER KAzHAyGAzHAyNGAyCAzHAyJAyNYA
yTTAzbHAyDDAzbHAyNNAyTAzHAyDAzHAyNAyPAzHAyBAzHAyMAyTSAzbHAyDZAzbHAyZHAzAy-AyYAyRAyLAyVAySHAzSAzA
yHAyKSSArFINAL CONSONANT MARKrSIGN VIRAMAwCANDRABINDUzi WITH ORNAMENTzd WITH ORNAMENTwANUSVARA
wVISARGArCLUSTER-INITIAL LETTER RAzFINAL LETTER YAznRAznLAznVArINITIAL HEAD MARKrCLOSING HEAD MARK
rMARK TSHEGwSHADwDOUBLE SHADwLONG TSHEGrINITIAL DOUBLE-LINED HEAD MARK
rCLOSING DOUBLE-LINED HEAD MARKrSUBJOINER<11A50>aSOYOMBO LETTER AiVOWEL SIGN ItUEtUtEtOuEtAIuU
tVOCALIC RzcLoLENGTH MARKiLETTER KAqHApGAqHApNGApCAqHApJAqHApNYApTTArHApDDArHApNNApTAqHApDAqHApNA
pPAqHApBAqHApMApTSArHApDZApZHAqAp-ApYApRApLApVApSHAqSAqApHApKSSAiSIGN JIHVAMULIYAnUPADHMANIYA
iCLUSTER-INITIAL LETTER RAzgLAzgSHAzhAiFINAL CONSONANT SIGN GzeKzeNGzeDzeNzeBzeMzeRzeLzeSHzeSze-A
iSIGN ANUSVARAnVISARGAiGEMINATION MARKiSUBJOINERiMARK TSHEGnSHADnDOUBLE SHADnPLUTA
iHEAD MARK WITH MOON AND SUN AND TRIPLE FLAMEzpFLAMEzjNiTERMINAL MARK-1w2
<11AB0>aCANADIAN SYLLABICS NATTILIK HIzfIzeOzfOzeAzfAzdSHRIzhIzgOzhOzgAzhAtSPEvIvOvA
aPAU CIN HAU LETTER PAtKAtLAtMAtDAtZAtVAtNGAtHAtGAtKHAtSAtBAtCAtTAuHAtNAtPHAtRAtFAtCHAtAtEtItOtUuA
tIAtFINAL PzKzTzMzNzLzWzNGzYmRISING TONE LONGwEmSANDHI GLOTTAL STOPmRISING TONE LONG FINALyFINAL
mSANDHI GLOTTAL STOP FINALtTONE LONGwEx LONG FINALyFINALmMID-LEVEL TONEmGLOTTAL STOP VARIANT
mMID-LEVEL TONE LONG FINALzcFINALmLOW-FALLING TONE LONGzcEmGLOTTAL STOP
mLOW-FALLING TONE LONG FINALzeFINALmGLOTTAL STOP FINAL<11C00>aBHAIKSUKI LETTER AsArIsIrUsU
rVOCALIC RzbRzL<11C0A>rErAIrOrAUrKAsHArGAsHArNGArCAsHArJAsHArNYArTTAtHArDDAtHArNNArTAsHArDAsHArNA
rPAsHArBAsHArMArYArRArLArVArSHAsSAsArHAkVOWEL SIGN AAvIwIvUwUvVOCALIC RzfRzeL<11C38>vEvAIvOvAU
kSIGN CANDRABINDUpANUSVARApVISARGArRAMApAVAGRAHAkDANDAlOUBLE DANDAkWORD SEPARATORkGAP FILLER-1v2
<11C50>kDIGIT ZEROqONEqTWOrHREEqFOURrIVEqSIXrEVENqEIGHTqNINEkNUMBER ONErTWOsHREErFOURsIVErSIXsEVEN
rEIGHTrNINErTENsWENTYsHIRTYrFORTYsIFTYrSIXTYsEVENTYrEIGHTYrNINETYkHUNDREDS UNIT MARK
<11C70>aMARCHEN HEAD MARKiMARK SHADiLETTER KAqHApGApNGApCAqHApJApNYApTAqHApDApNApPAqHApBApMApTSA
rHApDZApWApZHAqAp-ApYApRApLApSHAqApHApA<11C92>iSUBJOINED LETTER KAzbHAzGAzNGAzCAzbHAzJAzNYAzTAzbHA
zDAzNAzPAzbHAzBAzMAzTSAzcHAzDZAzWAzZHAzbA<11CA9>zYAzRAzLAzSHAzbAzHAzAiVOWEL SIGN AAtItUtEtO
iSIGN ANUSVARAnCANDRABINDU<11D00>cSARAM GONDI LETTER AwAvIwIvUwUvE<11D08>vAIvO<11D0B>vAUvKAwHAvGA
wHAvNGAvCAwHAvJAwHAvNYAvTTAxHAvDDAxHAvNNAvTAwHAvDAwHAvNAvPAwHAvBAwHAvMAvYAvRAvLAvVAvSHAwSAwAvHA
vLLAvKSSAvJNYAvTRAoVOWEL SIGN AAzIzbIzUzbUzVOCALIC R<11D3A>zE<11D3C>zAIzO<11D3F>zAUoSIGN ANUSVARA
tVISARGAtNUKTAtCANDRAtHALANTAoVIRAMAoREPHApA-KARA<11D50>oDIGIT ZEROuONEuTWOvHREEuFOURvIVEuSIXvEVEN
uEIGHTuNINE<11D60>aGUNJALA GONDI LETTER AwAvIwIvUwU<11D67>vEEvAI<11D6A>vOOvAUvYAvVAvBAwHAvMAvKAwHA
vTAwHAvLAvGAwHAvDAwHAvNAvCAwHAvTTAxHAvLLAvJAwHAvDDAxHAvNGAvPAwHAvHAvRAvSAoVOWEL SIGN AAzIzbIzUzbU
<11D90>zEEzAI<11D93>zOOzAUoSIGN ANUSVARAtVISARGAoVIRAMAoOM<11DA0>oDIGIT ZEROuONEuTWOvHREEuFOURvIVE
uSIXvEVENuEIGHTuNINE<11EE0>aMAKASAR LETTER KApGApNGApPApBApMApTApDApNApCApJApNYApYApRApLApVApSApA
iANGKAiVOWEL SIGN ItUtEtOiPASSIMBANGiEND OF SECTION<11FB0>aLISU LETTER YHA
<11FC0>aTAMIL FRACTION ONE THREE-HUNDRED-AND-TWENTIETHtONE-HUNDRED-AND-SIXTIETHtEIGHTIETH
tSIXTY-FOURTHtFORTIETHtTHIRTY-SECONDpTHREE EIGHTIETHSvSIXTY-FOURTHSpONE TWENTIETHtSIXTEENTH-1ze2
tTENTHtEIGHTHpTHREE TWENTIETHSvSIXTEENTHSpONE FIFTHtQUARTERtHALF-1y2pTHREE QUARTERS
pDOWNSCALING FACTOR KIIZHgSIGN NELlCEVITUlAAZHAAKKUlUZHAKKUlMUUVUZHAKKUlKURUNIlPATHAKKUlMUKKURUNI
lKAACUlPANAMmONlVARAAKANlPAARAMlKUZHIlVELIgWET CULTIVATION SIGNgDRY CULTIVATION SIGNgLAND SIGN
gSALT PAN SIGNgTRADITIONAL CREDIT SIGNsNUMBER SIGNgCURRENT SIGNgAND ODD SIGNgSPENT SIGNgTOTAL SIGN
gIN POSSESSION SIGNgSTARTING FROM SIGNhIGN MUTHALIYAlVAKAIYARAA<11FFF>gPUNCTUATION END OF TEXT"

end Name
end Text
end WorkflowKit
