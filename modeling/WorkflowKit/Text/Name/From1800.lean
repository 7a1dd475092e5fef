/-
# Names of characters from U+1800 to U+1FFF

The names are written as `WorkflowKit.Text.Name` says.
-/

namespace WorkflowKit
namespace Text
namespace Name

/-- The names of the characters from U+1800 to U+1FFF. -/
def namesFrom1800 : String := "
<1800>aMONGOLIAN BIRGAkELLIPSISkCOMMAkFULL STOPkCOLONkFOUR DOTSkTODO SOFT HYPHEN
kSIBE SYLLABLE BOUNDARY MARKERkMANCHU COMMArFULL STOPkNIRUGUkFREE VARIATION SELECTOR ONEzjTWO
zkHREEkVOWEL SEPARATORkFREE VARIATION SELECTOR FOURkDIGIT ZEROqONEqTWOrHREEqFOURrIVEqSIXrEVEN
qEIGHTqNINE<1820>kLETTER ArErIrOrUrOErUErEErNArANGrBArPArQArGArMArLArSAsHArTArDArCHArJArYArRArWA
rFArKAsHArTSArZArHAArZRArLHArZHIrCHIrTODO LONG VOWEL SIGNwEwIwOwUwOEwUEwANGwBAwPAwQAwGAwMAwTAwDA
wCHAwJAwTSAwYAwWAwKAwGAAwHAAwJIAwNIAwDZArSIBE EwIxYwUEwUwANGwKAwGAwHAwPAwSHAwTAwDAwJAwFAwGAAwHAA
wTSAwZAwRAAwCHAwZHArMANCHU IyKAyRAyFAyZHArCHA WITH TWO DOTS<1880>rALI GALI ANUSVARA ONE
zbVISARGA ONEzbDAMARUzbUBADAMAzbINVERTED UBADAMAzbBALUDAzbTHREE BALUDAzbAzbIzbKAzbNGAzbCAzbTTAzdHA
zbDDAzbNNAzbTAzbDAzbPAzcHAzbSSAzbZHAzcAzbAHrTODO ALI GALI TAzgZHArMANCHU ALI GALI GHAziNGAziCA
ziJHAziTTAziDDHAziTAziDHAziSSAziCYAziZHAzjArALI GALI HALF UzgYArMANCHU ALI GALI BHA
rALI GALI DAGALGArMANCHU ALI GALI LHA<18B0>aCANADIAN SYLLABICS OYtAYuAYtWAYtPOYuAYuWOYtTAYtKAYuWAY
tMAYtNOYuAYtLAYtSOYuAYuHOYvAYvWOYtYOYuAYtRAYtNWItOJIBWAY NWItNWIItOJIBWAY NWIItNWOtOJIBWAY NWO
tNWOOtOJIBWAY NWOOtRWEEvIwIvOwOvAtOJIBWAY PzcTzcKzcCzcMzcNzcSzdHtEASTERN WtWESTERN W
tFINAL SMALL RINGzRAISED DOTtR-CREE RWEtWEST-CREE LOOzfAAtTHWEwAuTHWEwOOwAAuLHWEwOOtSAYISI SHWE
zdOOzbHOOtCARRIER GWUzcDENE GEEzcGAAzdWAtSAYISI JUUtCARRIER JWAtBEAVER DENE LzgRtCARRIER DENTAL S
<1900>aLIMBU VOWEL-CARRIER LETTERgLETTER KAoHAnGAoHAnNGAnCAoHAnJAoHAnYANnTAoHAnDAoHAnNAnPAoHAnBA
oHAnMAnYAnRAnLAnWAnSHAoSAoAnHAnGYANnTRA<1920>gVOWEL SIGN ArIrUrEErAIrOOrAUrErOgSUBJOINED LETTER YA
xRAxWA<1930>hMALL LETTER KAtNGAtANUSVARAtTAtNAtPAtMAtRAtLAhIGN MUKPHRENGlKEMPHRENGlSA-I<1940>lLOO
<1944>gEXCLAMATION MARKgQUESTION MARKgDIGIT ZEROmONEmTWOnHREEmFOURnIVEmSIXnEVENmEIGHTmNINE
aTAI LE LETTER KAoXAoNGAoTSAoSAoYAoTApHAoLAoPApHAoMAoFAoVAoHAoQAoKHAoTSHAoNAoAoIoEEpHoUoOOoOoUEoE
oAUEpI<1970>oTONE-2t3t4t5t6<1980>aNEW TAI LUE LETTER HIGH QAtLOW QAtHIGH KAyXAyNGAtLOW KAxXAxNGA
tHIGH TSAySAyYAtLOW TSAxSAxYAtHIGH TAzHAyNAtLOW TAyHAxNAtHIGH PAzHAyMAtLOW PAyHAxMAtHIGH FAyVAyLA
tLOW FAxVAxLAtHIGH HAyDAyBAtLOW HAxDAxBAtHIGH KVAyXVAtLOW KVAxXVAtHIGH SUAtLOW SUA
<19B0>mVOWEL SIGN VOWEL SHORTENERxAAxIIxUyUxExAExOyAxUExAYyAYxUYxOYyAYxUEYxIYmLETTER FINAL VzNGzN
zMzKzDzBmTONE MARK-1w2<19D0>mDIGIT ZEROsONEsTWOtHREEsFOURtIVEsSIXtEVENsEIGHTsNINEmTHAM DIGIT ONE
<19DE>mSIGN LAEuVaKHMER SYMBOL PATHAMASATnMUOY KOETnPII KOETnBEI KOEToUON KOETnPRAM KOET
r-MUOY KOETsPII KOETsBEI KOETtUON KOETnDAP KOETq-MUOY KOETrPII KOETrBEI KOETsUON KOETrPRAM KOET
nTUTEYASATnMUOY ROCnPII ROCnBEI ROCoUON ROCnPRAM ROCr-MUOY ROCsPII ROCsBEI ROCtUON ROCnDAP ROC
q-MUOY ROCrPII ROCrBEI ROCsUON ROCrPRAM ROCaBUGINESE LETTER KAqGAqNGAsKAqPAqBAqMArPAqTAqDAqNArRA
qCAqJAqNYAsCAqYAqRAqLAqVAqSAqAqHAjVOWEL SIGN IuUuEuOuAE<1A1E>jPALLAWAjEND OF SECTION
aTAI THAM LETTER HIGH KAwHAwXAqLOW KAvXAvHAqNGAqHIGH CAwHAqLOW CAuSAuCHAqNYAqRATAqHIGH RATHAqDA
qLOW RATHAqRANAqHIGH TAwHAqLOW TAvHAqNAqBAqHIGH PAwHAvFAqLOW PAuFAuPHAqMAqLOW YAqHIGH YAqRArUEqLA
rUEqWAqHIGH SHAwSAwAvHAqLLAqAqLOW HAqIrIqUrUqEEqOOqLAEqGREAT SAjCONSONANT SIGN MEDIAL RAzgLA
yLA TANG LAIjSIGN MAI KANG LAIjCONSONANT SIGN FINAL NGAyLOW PAyHIGH RATHA OR LOW PAyMAyBAySA
<1A60>jSIGN SAKOTjVOWEL SIGN AuMAI SATuAAuTALL AAuIvIuUEvUEuUvUuOvA BELOWvYuEuAEuOOuAIuTHAM AI
uOA ABOVEjSIGN MAI KANGoTONE-1t2oKHUEN TONE-3z4z5oRA HAAMoMAI SAMoKHUEN-LUE KARAN
<1A7F>jCOMBINING CRYPTOGRAMMIC DOTjHORA DIGIT ZEROuONEuTWOvHREEuFOURvIVEuSIXvEVENuEIGHTuNINE
<1A90>jTHAM DIGIT ZEROuONEuTWOvHREEuFOURvIVEuSIXvEVENuEIGHTuNINE<1AA0>jSIGN WIANGtWAAKoSAWANoKEOW
oHOYoDOKMAIoREVERSED ROTATED RANAoMAI YAMOKoKAANsKUUoSATKAANvKUUoHANGoCAANG
<1AB0>aCOMBINING DOUBLED CIRCUMFLEX ACCENTlIAERESIS-RINGkINFINITYkDOWNWARDS ARROWkTRIPLE DOT
kX-X BELOWkWIGGLY LINE BELOWkOPEN MARK BELOWkDOUBLE OPEN MARK BELOW
kLIGHT CENTRALIZATION STROKE BELOWkSTRONG CENTRALIZATION STROKE BELOWkPARENTHESES ABOVE
kDOUBLE PARENTHESES ABOVEkPARENTHESES BELOWwOVERLAYkLATIN SMALL LETTER W BELOWzeTURNED W BELOW
lEFT PARENTHESIS ABOVE LEFTkRIGHT PARENTHESIS ABOVE RIGHTkLEFT PARENTHESIS BELOW LEFT
kRIGHT PARENTHESIS BELOW RIGHTkSQUARE BRACKETS ABOVEkNUMBER SIGN ABOVEkINVERTED DOUBLE ARCH ABOVE
kPLUS SIGN ABOVEkDOUBLE PLUS SIGN ABOVEzcBELOWkTRIPLE ACUTE ACCENTkLATIN SMALL LETTER INSULAR GzmR
zmT<1B00>aBALINESE SIGN ULU RICEMsCANDRAoCECEKoSURANGoBISAHjLETTER AKARAv TEDUNGqIKARAv TEDUNG
qUKARAv TEDUNGqRA REPAx TEDUNGqLA LENGAy TEDUNGqEKARAqAIKARAqOKARAv TEDUNGqKAs MAHAPRANAqGAs GORA
qNGAqCAs LACAqJAs JERAqNYAqTA LATIKtMURDA MAHAPRANAqDA MURDA ALPAPRANAzMAHAPRANAqNA RAMBATqTA
s TAWAqDAs MADUqNAqPAs KAPALqBAs KEMBANGqMAqYAqRAqLAqWAqSA SAGAvPArAqHAjSIGN REREKAN
jVOWEL SIGN TEDUNGuULUx SARIuSUKUy ILUTuRA REPAzc TEDUNGuLA LENGAzd TEDUNGuTALINGzb REPAzcTEDUNG
zcREPA TEDUNGuPEPETz TEDUNGjADEG ADEGjLETTER KAF SASAKrHOT SASAKqTZIR SASAKqEF SASAKqVE SASAK
qZAL SASAKqASYURA SASAKrRCHAIC JNYA<1B50>jDIGIT ZEROpONEpTWOqHREEpFOURqIVEpSIXqEVENpEIGHTpNINE
jPANTIlMADAjWINDUjCARIK PAMUNGKAHpSIKIpPARERENjPAMENENGjMUSICAL SYMBOL DONGzENGzUNGzANGzd SURANG
zINGzAENGzEUNGzAINGzbNG GEDEyCOMBINING TEGEHzjENDEPzjKEMPULznLIzjJEGOGANzjKEMPUL WITH JEGOGAN
znLI WITH JEGOGANzjBENDEzjGONGyRIGHT-HAND OPEN DUGzqAGzkCLOSED TUKzsAKyLEFT-HAND OPEN PANGzpUNG
zjCLOSED PLAKzsUKzjOPEN PINGjPANTI LANTANGlMADA LANTANG<1B80>aSUNDANESE SIGN PANYECEKsGLAYARtWISAD
kLETTER ArIrUrAErOrEsUrKArQArGArNGArCArJArZArNYArTArDArNArPArFArVArBArMArYArRArLArWArSArXArHA
kCONSONANT SIGN PAMINGKALzcNYAKRAzeIKUkVOWEL SIGN PANGHULUyYUKUyAELAENGyOLONGxMEPETxNEULEUNG
kSIGN PAMAAEHpVIRAMAkCONSONANT SIGN PASANGAN MAzjWAkLETTER KHArSYAkDIGIT ZEROqONEqTWOrHREEqFOUR
rIVEqSIXrEVENqEIGHTqNINEkAVAGRAHAkLETTER REUrLEUrBHArFINAL KxMaBATAK LETTER AnSIMALUNGUN AnHA
nSIMALUNGUN HAnMANDAILING HAnBAnKARO BAnPAnSIMALUNGUN PAnNAnMANDAILING NAnWAnSIMALUNGUN WA
nPAKPAK WAnGAnSIMALUNGUN GAnJAnDAnRAnSIMALUNGUN RAnMAnSIMALUNGUN MAoOUTHERN TAnNORTHERN TAnSA
oIMALUNGUN SAnMANDAILING SAnYAnSIMALUNGUN YAnNGAnLAnSIMALUNGUN LAnNYAnCAnNDAnMBAnInUgSIGN TOMPI
gVOWEL SIGN ErPAKPAK ErEErIrKARO IrOrKARO OrUs FOR SIMALUNGUN SAgCONSONANT SIGN NGvHgPANGOLAT
jONGONAN<1BFC>gSYMBOL BINDU NA METEKtPINARBORAStJUDULtPANGOLATaLEPCHA LETTER KApLApHAoGApLAoNGAoCA
pHAoJAoNYAoTApHAoDAoNAoPApLApHAoFApLAoBApLAoMApLAoTSAqHAoDZAoYAoRAoLAoHApLAoVAoSApHAoWAoA
hSUBJOINED LETTER YAyRAhVOWEL SIGN AAsIsOtOsUtUsEhCONSONANT SIGN KwMwLwNwPwRwTwNYIN-DOwKANG
hSIGN RANmNUKTA<1C3B>hPUNCTUATION TA-ROLtNYET THYOOM TA-ROLtCER-WAtTSHOOK CER-WAyKhDIGIT ZEROnONE
nTWOoHREEnFOURoIVEnSIXoEVENnEIGHTnNINE<1C4D>hLETTER TTAqHAoDDAaOL CHIKI DIGIT ZEROpONEpTWOqHREE
pFOURqIVEpSIXqEVENpEIGHTpNINEjLETTER LAqATrGrNGrLqLAAqAAKsJsMsWqLIqISrHrNYrRqLUqUCrDrNNrYqLEqEPrDD
rNrRRqLOqOTTrBrVrHjMU TTUDDAGjGAAHLAA TTUDDAAGjMU-GAAHLAA TTUDDAAGjRELAAjPHAARKAAjAHAD
jPUNCTUATION MUCAADvDOUBLE MUCAADaCYRILLIC SMALL LETTER ROUNDED VEwLONG-LEGGED DEwNARROW OwWIDE ES
wTALL TExHREE-LEGGED TExALL HARD SIGNzcYATwUNBLENDED UK<1C90>aGEORGIAN MTAVRULI CAPITAL LETTER AN
ziBANziGANziDONziENziVINziZENziTANziINziKANziLASziMANziNARziONziPARziZHARziRAEziSANziTARziUNziPHAR
ziKHARziGHANziQARziSHINziCHINzjANziJILziCILzjHARziXANziJHANziHAEzjEzjIEziWEziHARzjOEziFIziYN
ziELIFIziTURNED GANziAIN<1CBD>zjENziHARD SIGNziLABIAL SIGNaSUNDANESE PUNCTUATION BINDU SURYA
zdPANGLONGzeURNAMAzdCAKRAzdLEU SATANGAzdKA SATANGAzdDA SATANGAzdBA SATANGA
<1CD0>aVEDIC TONE KARSHANAlSHARAlPRENKHAgSIGN NIHSHVASAlYAJURVEDIC MIDLINE SVARITA
gTONE YAJURVEDIC AGGRAVATED INDEPENDENT SVARITAwINDEPENDENT SVARITAwKATHAKA INDEPENDENT SVARITA
lCANDRA BELOWlYAJURVEDIC KATHAKA INDEPENDENT SVARITA SCHROEDERlDOUBLE SVARITAlTRIPLE SVARITA
lKATHAKA ANUDATTAlDOT BELOWlTWO DOTS BELOWmHREE DOTS BELOWlRIGVEDIC KASHMIRI INDEPENDENT SVARITA
lATHARVAVEDIC INDEPENDENT SVARITAgSIGN VISARGA SVARITAtUDATTAlREVERSED VISARGA UDATTA
lVISARGA ANUDATTAlREVERSED VISARGA ANUDATTAlVISARGA UDATTA WITH TAILtANUDATTA WITH TAIL
lANUSVARA ANTARGOMUKHAuBAHIRGOMUKHAuVAMAGOMUKHAzg WITH TAILlTIRYAKlHEXIFORM LONG ANUSVARA
lLONG ANUSVARAlRTHANG LONG ANUSVARAlANUSVARA UBHAYATO MUKHAmRDHAVISARGAlROTATED ARDHAVISARGA
gTONE CANDRA ABOVEgSIGN JIHVAMULIYAlUPADHMANIYAlATIKRAMAgTONE RING ABOVElDOUBLE RING ABOVE
gSIGN DOUBLE ANUSVARA ANTARGOMUKHA<1D00>aLATIN LETTER SMALL CAPITAL AzdEgSMALL LETTER TURNED AE
gLETTER SMALL CAPITAL BARRED BzcCzcDzcETHzcEgSMALL LETTER TURNED OPEN EzbIgLETTER SMALL CAPITAL J
zcKzcL WITH STROKEzcMzcREVERSED NzcOzdPEN OgSMALL LETTER SIDEWAYS OzePEN Oze WITH STROKEtTURNED OE
gLETTER SMALL CAPITAL OUgSMALL LETTER TOP HALF OtBOTTOM HALF OgLETTER SMALL CAPITAL PzcREVERSED R
zcTURNED RzcTzcUgSMALL LETTER SIDEWAYS UzdDIAERESIZED UzdTURNED MgLETTER SMALL CAPITAL VzcWzcZ
zcEZHnVOICED LARYNGEAL SPIRANTnAINaGREEK LETTER SMALL CAPITAL GAMMAzcLAMDAzcPIzcRHOzcPSI
aCYRILLIC LETTER SMALL CAPITAL ELaMODIFIER LETTER CAPITAL AzEyBzARRED ByDyEyREVERSED EyGyHyIyJyKyL
yMyNyREVERSED NyOzUyPyRyTyUyWqSMALL AwTURNED AwALPHAwTURNED AEwBwDwEwSCHWAwOPEN EwTURNED OPEN EwG
wTURNED IwKwMwENGwOxPEN OwTOP HALF OwBOTTOM HALF OwPwTwUwSIDEWAYS UwTURNED MwVwAINwBETA
wGREEK GAMMAwDELTAwGREEK PHIwCHIaLATIN SUBSCRIPT SMALL LETTER IzeRzeUzeV
aGREEK SUBSCRIPT SMALL LETTER BETAzeGAMMAzeRHOzePHIzeCHIaLATIN SMALL LETTER UEtB WITH MIDDLE TILDE
tD WITH MIDDLE TILDEtF WITH MIDDLE TILDEtM WITH MIDDLE TILDEtN WITH MIDDLE TILDE
tP WITH MIDDLE TILDEtR WITH MIDDLE TILDEzbFISHHOOK AND MIDDLE TILDEtS WITH MIDDLE TILDE
tT WITH MIDDLE TILDEtZ WITH MIDDLE TILDEtTURNED GaMODIFIER LETTER CYRILLIC EN
aLATIN SMALL LETTER INSULAR GtTH WITH STRIKETHROUGHmCAPITAL LETTER I WITH STROKE
mLETTER IOTA WITH STROKEtP WITH STROKEmCAPITAL LETTER U WITH STROKEmLETTER UPSILON WITH STROKE
tB WITH PALATAL HOOKtD WITH PALATAL HOOKtF WITH PALATAL HOOKtG WITH PALATAL HOOK
tK WITH PALATAL HOOKtL WITH PALATAL HOOKtM WITH PALATAL HOOKtN WITH PALATAL HOOK
tP WITH PALATAL HOOKtR WITH PALATAL HOOKtS WITH PALATAL HOOKtESH WITH PALATAL HOOK
tV WITH PALATAL HOOKtX WITH PALATAL HOOKtZ WITH PALATAL HOOKtA WITH RETROFLEX HOOK
uLPHA WITH RETROFLEX HOOKtD WITH HOOK AND TAILtE WITH RETROFLEX HOOKtOPEN E WITH RETROFLEX HOOK
tREVERSED OPEN E WITH RETROFLEX HOOKtSCHWA WITH RETROFLEX HOOKtI WITH RETROFLEX HOOK
tOPEN O WITH RETROFLEX HOOKtESH WITH RETROFLEX HOOKtU WITH RETROFLEX HOOKtEZH WITH RETROFLEX HOOK
aMODIFIER LETTER SMALL TURNED ALPHAwCx WITH CURLwETHwREVERSED OPEN EwFwDOTLESS J WITH STROKE
wSCRIPT GwTURNED HwI WITH STROKExOTAwCAPITAL Izg WITH STROKEwJ WITH CROSSED-TAIL
wL WITH RETROFLEX HOOKzePALATAL HOOKwCAPITAL LwM WITH HOOKwTURNED M WITH LONG LEGwN WITH LEFT HOOK
zeRETROFLEX HOOKwCAPITAL NwBARRED OwPHIwS WITH HOOKwESHwT WITH PALATAL HOOKwU BARxPSILONwCAPITAL U
wV WITH HOOKwTURNED VwZx WITH RETROFLEX HOOKzeCURLwEZHwTHETAaCOMBINING DOTTED GRAVE ACCENT
rACUTE ACCENTkSNAKE BELOWlUSPENSION MARKkMACRON-ACUTEkGRAVE-MACRONkMACRON-GRAVEkACUTE-MACRON
kGRAVE-ACUTE-GRAVEkACUTE-GRAVE-ACUTEkLATIN SMALL LETTER R BELOWkBREVE-MACRONkMACRON-BREVE
kDOUBLE CIRCUMFLEX ABOVEkOGONEK ABOVEkZIGZAG BELOWkIS BELOWkUR ABOVElS ABOVE
kLATIN SMALL LETTER FLATTENED OPEN A ABOVEzeAEzfOzfVzeC CEDILLAzeINSULAR DzeETHzeG
qLETTER SMALL CAPITAL GqSMALL LETTER KzeLqLETTER SMALL CAPITAL LzmMqSMALL LETTER N
qLETTER SMALL CAPITAL NzmRqSMALL LETTER R ROTUNDAzeSzeLONG SzeZzeALPHAzeBzfETAzeSCHWAzeF
zeL WITH DOUBLE MIDDLE TILDEzeO WITH LIGHT CENTRALIZATION STROKEzePzeESH
zeU WITH LIGHT CENTRALIZATION STROKEzeWzeA WITH DIAERESISzeO WITH DIAERESISzeU WITH DIAERESIS
kUP TACK ABOVEkKAVYKA ABOVE RIGHTxLEFTkDOT ABOVE LEFTkWIDE INVERTED BRIDGE BELOWkDOT BELOW LEFT
lELETION MARKlOUBLE INVERTED BREVE BELOWkALMOST EQUAL TO BELOWkLEFT ARROWHEAD ABOVE
kRIGHT ARROWHEAD AND DOWN ARROWHEAD BELOWaLATIN CAPITAL LETTER A WITH RING BELOW
gSMALL LETTER A WITH RING BELOWgCAPITAL LETTER B WITH DOT ABOVEgSMALL LETTER B WITH DOT ABOVE
gCAPITAL LETTER B WITH DOT BELOWgSMALL LETTER B WITH DOT BELOWgCAPITAL LETTER B WITH LINE BELOW
gSMALL LETTER B WITH LINE BELOWgCAPITAL LETTER C WITH CEDILLA AND ACUTE
gSMALL LETTER C WITH CEDILLA AND ACUTEgCAPITAL LETTER D WITH DOT ABOVE
gSMALL LETTER D WITH DOT ABOVEgCAPITAL LETTER D WITH DOT BELOWgSMALL LETTER D WITH DOT BELOW
gCAPITAL LETTER D WITH LINE BELOWgSMALL LETTER D WITH LINE BELOWgCAPITAL LETTER D WITH CEDILLA
gSMALL LETTER D WITH CEDILLAgCAPITAL LETTER D WITH CIRCUMFLEX BELOW
gSMALL LETTER D WITH CIRCUMFLEX BELOWgCAPITAL LETTER E WITH MACRON AND GRAVE
gSMALL LETTER E WITH MACRON AND GRAVEgCAPITAL LETTER E WITH MACRON AND ACUTE
gSMALL LETTER E WITH MACRON AND ACUTEgCAPITAL LETTER E WITH CIRCUMFLEX BELOW
gSMALL LETTER E WITH CIRCUMFLEX BELOWgCAPITAL LETTER E WITH TILDE BELOW
gSMALL LETTER E WITH TILDE BELOWgCAPITAL LETTER E WITH CEDILLA AND BREVE
gSMALL LETTER E WITH CEDILLA AND BREVEgCAPITAL LETTER F WITH DOT ABOVE
gSMALL LETTER F WITH DOT ABOVEgCAPITAL LETTER G WITH MACRONgSMALL LETTER G WITH MACRON
gCAPITAL LETTER H WITH DOT ABOVEgSMALL LETTER H WITH DOT ABOVEgCAPITAL LETTER H WITH DOT BELOW
gSMALL LETTER H WITH DOT BELOWgCAPITAL LETTER H WITH DIAERESISgSMALL LETTER H WITH DIAERESIS
gCAPITAL LETTER H WITH CEDILLAgSMALL LETTER H WITH CEDILLAgCAPITAL LETTER H WITH BREVE BELOW
gSMALL LETTER H WITH BREVE BELOWgCAPITAL LETTER I WITH TILDE BELOWgSMALL LETTER I WITH TILDE BELOW
gCAPITAL LETTER I WITH DIAERESIS AND ACUTEgSMALL LETTER I WITH DIAERESIS AND ACUTE
gCAPITAL LETTER K WITH ACUTEgSMALL LETTER K WITH ACUTEgCAPITAL LETTER K WITH DOT BELOW
gSMALL LETTER K WITH DOT BELOWgCAPITAL LETTER K WITH LINE BELOWgSMALL LETTER K WITH LINE BELOW
gCAPITAL LETTER L WITH DOT BELOWgSMALL LETTER L WITH DOT BELOW
gCAPITAL LETTER L WITH DOT BELOW AND MACRONgSMALL LETTER L WITH DOT BELOW AND MACRON
gCAPITAL LETTER L WITH LINE BELOWgSMALL LETTER L WITH LINE BELOW
gCAPITAL LETTER L WITH CIRCUMFLEX BELOWgSMALL LETTER L WITH CIRCUMFLEX BELOW
gCAPITAL LETTER M WITH ACUTEgSMALL LETTER M WITH ACUTEgCAPITAL LETTER M WITH DOT ABOVE
gSMALL LETTER M WITH DOT ABOVEgCAPITAL LETTER M WITH DOT BELOWgSMALL LETTER M WITH DOT BELOW
gCAPITAL LETTER N WITH DOT ABOVEgSMALL LETTER N WITH DOT ABOVEgCAPITAL LETTER N WITH DOT BELOW
gSMALL LETTER N WITH DOT BELOWgCAPITAL LETTER N WITH LINE BELOWgSMALL LETTER N WITH LINE BELOW
gCAPITAL LETTER N WITH CIRCUMFLEX BELOWgSMALL LETTER N WITH CIRCUMFLEX BELOW
gCAPITAL LETTER O WITH TILDE AND ACUTEgSMALL LETTER O WITH TILDE AND ACUTE
gCAPITAL LETTER O WITH TILDE AND DIAERESISgSMALL LETTER O WITH TILDE AND DIAERESIS
gCAPITAL LETTER O WITH MACRON AND GRAVEgSMALL LETTER O WITH MACRON AND GRAVE
gCAPITAL LETTER O WITH MACRON AND ACUTEgSMALL LETTER O WITH MACRON AND ACUTE
gCAPITAL LETTER P WITH ACUTEgSMALL LETTER P WITH ACUTEgCAPITAL LETTER P WITH DOT ABOVE
gSMALL LETTER P WITH DOT ABOVEgCAPITAL LETTER R WITH DOT ABOVEgSMALL LETTER R WITH DOT ABOVE
gCAPITAL LETTER R WITH DOT BELOWgSMALL LETTER R WITH DOT BELOW
gCAPITAL LETTER R WITH DOT BELOW AND MACRONgSMALL LETTER R WITH DOT BELOW AND MACRON
gCAPITAL LETTER R WITH LINE BELOWgSMALL LETTER R WITH LINE BELOWgCAPITAL LETTER S WITH DOT ABOVE
gSMALL LETTER S WITH DOT ABOVEgCAPITAL LETTER S WITH DOT BELOWgSMALL LETTER S WITH DOT BELOW
gCAPITAL LETTER S WITH ACUTE AND DOT ABOVEgSMALL LETTER S WITH ACUTE AND DOT ABOVE
gCAPITAL LETTER S WITH CARON AND DOT ABOVEgSMALL LETTER S WITH CARON AND DOT ABOVE
gCAPITAL LETTER S WITH DOT BELOW AND DOT ABOVEgSMALL LETTER S WITH DOT BELOW AND DOT ABOVE
gCAPITAL LETTER T WITH DOT ABOVEgSMALL LETTER T WITH DOT ABOVEgCAPITAL LETTER T WITH DOT BELOW
gSMALL LETTER T WITH DOT BELOWgCAPITAL LETTER T WITH LINE BELOWgSMALL LETTER T WITH LINE BELOW
gCAPITAL LETTER T WITH CIRCUMFLEX BELOWgSMALL LETTER T WITH CIRCUMFLEX BELOW
gCAPITAL LETTER U WITH DIAERESIS BELOWgSMALL LETTER U WITH DIAERESIS BELOW
gCAPITAL LETTER U WITH TILDE BELOWgSMALL LETTER U WITH TILDE BELOW
gCAPITAL LETTER U WITH CIRCUMFLEX BELOWgSMALL LETTER U WITH CIRCUMFLEX BELOW
gCAPITAL LETTER U WITH TILDE AND ACUTEgSMALL LETTER U WITH TILDE AND ACUTE
gCAPITAL LETTER U WITH MACRON AND DIAERESISgSMALL LETTER U WITH MACRON AND DIAERESIS
gCAPITAL LETTER V WITH TILDEgSMALL LETTER V WITH TILDEgCAPITAL LETTER V WITH DOT BELOW
gSMALL LETTER V WITH DOT BELOWgCAPITAL LETTER W WITH GRAVEgSMALL LETTER W WITH GRAVE
gCAPITAL LETTER W WITH ACUTEgSMALL LETTER W WITH ACUTEgCAPITAL LETTER W WITH DIAERESIS
gSMALL LETTER W WITH DIAERESISgCAPITAL LETTER W WITH DOT ABOVEgSMALL LETTER W WITH DOT ABOVE
gCAPITAL LETTER W WITH DOT BELOWgSMALL LETTER W WITH DOT BELOWgCAPITAL LETTER X WITH DOT ABOVE
gSMALL LETTER X WITH DOT ABOVEgCAPITAL LETTER X WITH DIAERESISgSMALL LETTER X WITH DIAERESIS
gCAPITAL LETTER Y WITH DOT ABOVEgSMALL LETTER Y WITH DOT ABOVEgCAPITAL LETTER Z WITH CIRCUMFLEX
gSMALL LETTER Z WITH CIRCUMFLEXgCAPITAL LETTER Z WITH DOT BELOWgSMALL LETTER Z WITH DOT BELOW
gCAPITAL LETTER Z WITH LINE BELOWgSMALL LETTER Z WITH LINE BELOWtH WITH LINE BELOW
tT WITH DIAERESIStW WITH RING ABOVEtY WITH RING ABOVEtA WITH RIGHT HALF RINGtLONG S WITH DOT ABOVE
zhIAGONAL STROKEzgHIGH STROKEgCAPITAL LETTER SHARP SgSMALL LETTER DELTA
gCAPITAL LETTER A WITH DOT BELOWgSMALL LETTER A WITH DOT BELOWgCAPITAL LETTER A WITH HOOK ABOVE
gSMALL LETTER A WITH HOOK ABOVEgCAPITAL LETTER A WITH CIRCUMFLEX AND ACUTE
gSMALL LETTER A WITH CIRCUMFLEX AND ACUTEgCAPITAL LETTER A WITH CIRCUMFLEX AND GRAVE
gSMALL LETTER A WITH CIRCUMFLEX AND GRAVEgCAPITAL LETTER A WITH CIRCUMFLEX AND HOOK ABOVE
gSMALL LETTER A WITH CIRCUMFLEX AND HOOK ABOVEgCAPITAL LETTER A WITH CIRCUMFLEX AND TILDE
gSMALL LETTER A WITH CIRCUMFLEX AND TILDEgCAPITAL LETTER A WITH CIRCUMFLEX AND DOT BELOW
gSMALL LETTER A WITH CIRCUMFLEX AND DOT BELOWgCAPITAL LETTER A WITH BREVE AND ACUTE
gSMALL LETTER A WITH BREVE AND ACUTEgCAPITAL LETTER A WITH BREVE AND GRAVE
gSMALL LETTER A WITH BREVE AND GRAVEgCAPITAL LETTER A WITH BREVE AND HOOK ABOVE
gSMALL LETTER A WITH BREVE AND HOOK ABOVEgCAPITAL LETTER A WITH BREVE AND TILDE
gSMALL LETTER A WITH BREVE AND TILDEgCAPITAL LETTER A WITH BREVE AND DOT BELOW
gSMALL LETTER A WITH BREVE AND DOT BELOWgCAPITAL LETTER E WITH DOT BELOW
gSMALL LETTER E WITH DOT BELOWgCAPITAL LETTER E WITH HOOK ABOVEgSMALL LETTER E WITH HOOK ABOVE
gCAPITAL LETTER E WITH TILDEgSMALL LETTER E WITH TILDEgCAPITAL LETTER E WITH CIRCUMFLEX AND ACUTE
gSMALL LETTER E WITH CIRCUMFLEX AND ACUTEgCAPITAL LETTER E WITH CIRCUMFLEX AND GRAVE
gSMALL LETTER E WITH CIRCUMFLEX AND GRAVEgCAPITAL LETTER E WITH CIRCUMFLEX AND HOOK ABOVE
gSMALL LETTER E WITH CIRCUMFLEX AND HOOK ABOVEgCAPITAL LETTER E WITH CIRCUMFLEX AND TILDE
gSMALL LETTER E WITH CIRCUMFLEX AND TILDEgCAPITAL LETTER E WITH CIRCUMFLEX AND DOT BELOW
gSMALL LETTER E WITH CIRCUMFLEX AND DOT BELOWgCAPITAL LETTER I WITH HOOK ABOVE
gSMALL LETTER I WITH HOOK ABOVEgCAPITAL LETTER I WITH DOT BELOWgSMALL LETTER I WITH DOT BELOW
gCAPITAL LETTER O WITH DOT BELOWgSMALL LETTER O WITH DOT BELOWgCAPITAL LETTER O WITH HOOK ABOVE
gSMALL LETTER O WITH HOOK ABOVEgCAPITAL LETTER O WITH CIRCUMFLEX AND ACUTE
gSMALL LETTER O WITH CIRCUMFLEX AND ACUTEgCAPITAL LETTER O WITH CIRCUMFLEX AND GRAVE
gSMALL LETTER O WITH CIRCUMFLEX AND GRAVEgCAPITAL LETTER O WITH CIRCUMFLEX AND HOOK ABOVE
gSMALL LETTER O WITH CIRCUMFLEX AND HOOK ABOVEgCAPITAL LETTER O WITH CIRCUMFLEX AND TILDE
gSMALL LETTER O WITH CIRCUMFLEX AND TILDEgCAPITAL LETTER O WITH CIRCUMFLEX AND DOT BELOW
gSMALL LETTER O WITH CIRCUMFLEX AND DOT BELOWgCAPITAL LETTER O WITH HORN AND ACUTE
gSMALL LETTER O WITH HORN AND ACUTEgCAPITAL LETTER O WITH HORN AND GRAVE
gSMALL LETTER O WITH HORN AND GRAVEgCAPITAL LETTER O WITH HORN AND HOOK ABOVE
gSMALL LETTER O WITH HORN AND HOOK ABOVEgCAPITAL LETTER O WITH HORN AND TILDE
gSMALL LETTER O WITH HORN AND TILDEgCAPITAL LETTER O WITH HORN AND DOT BELOW
gSMALL LETTER O WITH HORN AND DOT BELOWgCAPITAL LETTER U WITH DOT BELOW
gSMALL LETTER U WITH DOT BELOWgCAPITAL LETTER U WITH HOOK ABOVEgSMALL LETTER U WITH HOOK ABOVE
gCAPITAL LETTER U WITH HORN AND ACUTEgSMALL LETTER U WITH HORN AND ACUTE
gCAPITAL LETTER U WITH HORN AND GRAVEgSMALL LETTER U WITH HORN AND GRAVE
gCAPITAL LETTER U WITH HORN AND HOOK ABOVEgSMALL LETTER U WITH HORN AND HOOK ABOVE
gCAPITAL LETTER U WITH HORN AND TILDEgSMALL LETTER U WITH HORN AND TILDE
gCAPITAL LETTER U WITH HORN AND DOT BELOWgSMALL LETTER U WITH HORN AND DOT BELOW
gCAPITAL LETTER Y WITH GRAVEgSMALL LETTER Y WITH GRAVEgCAPITAL LETTER Y WITH DOT BELOW
gSMALL LETTER Y WITH DOT BELOWgCAPITAL LETTER Y WITH HOOK ABOVEgSMALL LETTER Y WITH HOOK ABOVE
gCAPITAL LETTER Y WITH TILDEgSMALL LETTER Y WITH TILDEgCAPITAL LETTER MIDDLE-WELSH LL
gSMALL LETTER MIDDLE-WELSH LLgCAPITAL LETTER MIDDLE-WELSH VgSMALL LETTER MIDDLE-WELSH V
gCAPITAL LETTER Y WITH LOOPgSMALL LETTER Y WITH LOOPaGREEK SMALL LETTER ALPHA WITH PSILIzfDASIA
zfPSILI AND VARIAzfDASIA AND VARIAzfPSILI AND OXIAzfDASIA AND OXIAzfPSILI AND PERISPOMENI
zfDASIA AND PERISPOMENIgCAPITAL LETTER ALPHA WITH PSILIzhDASIAzhPSILI AND VARIAzhDASIA AND VARIA
zhPSILI AND OXIAzhDASIA AND OXIAzhPSILI AND PERISPOMENIzhDASIA AND PERISPOMENI
gSMALL LETTER EPSILON WITH PSILIzhDASIAzhPSILI AND VARIAzhDASIA AND VARIAzhPSILI AND OXIA
zhDASIA AND OXIA<1F18>gCAPITAL LETTER EPSILON WITH PSILIzjDASIAzjPSILI AND VARIAzjDASIA AND VARIA
zjPSILI AND OXIAzjDASIA AND OXIA<1F20>gSMALL LETTER ETA WITH PSILIzdDASIAzdPSILI AND VARIA
zdDASIA AND VARIAzdPSILI AND OXIAzdDASIA AND OXIAzdPSILI AND PERISPOMENIzdDASIA AND PERISPOMENI
gCAPITAL LETTER ETA WITH PSILIzfDASIAzfPSILI AND VARIAzfDASIA AND VARIAzfPSILI AND OXIA
zfDASIA AND OXIAzfPSILI AND PERISPOMENIzfDASIA AND PERISPOMENIgSMALL LETTER IOTA WITH PSILIzeDASIA
zePSILI AND VARIAzeDASIA AND VARIAzePSILI AND OXIAzeDASIA AND OXIAzePSILI AND PERISPOMENI
zeDASIA AND PERISPOMENIgCAPITAL LETTER IOTA WITH PSILIzgDASIAzgPSILI AND VARIAzgDASIA AND VARIA
zgPSILI AND OXIAzgDASIA AND OXIAzgPSILI AND PERISPOMENIzgDASIA AND PERISPOMENI
gSMALL LETTER OMICRON WITH PSILIzhDASIAzhPSILI AND VARIAzhDASIA AND VARIAzhPSILI AND OXIA
zhDASIA AND OXIA<1F48>gCAPITAL LETTER OMICRON WITH PSILIzjDASIAzjPSILI AND VARIAzjDASIA AND VARIA
zjPSILI AND OXIAzjDASIA AND OXIA<1F50>gSMALL LETTER UPSILON WITH PSILIzhDASIAzhPSILI AND VARIA
zhDASIA AND VARIAzhPSILI AND OXIAzhDASIA AND OXIAzhPSILI AND PERISPOMENIzhDASIA AND PERISPOMENI
<1F59>gCAPITAL LETTER UPSILON WITH DASIA<1F5B>zo AND VARIA<1F5D>ztOXIA<1F5F>ztPERISPOMENI
gSMALL LETTER OMEGA WITH PSILIzfDASIAzfPSILI AND VARIAzfDASIA AND VARIAzfPSILI AND OXIA
zfDASIA AND OXIAzfPSILI AND PERISPOMENIzfDASIA AND PERISPOMENIgCAPITAL LETTER OMEGA WITH PSILI
zhDASIAzhPSILI AND VARIAzhDASIA AND VARIAzhPSILI AND OXIAzhDASIA AND OXIAzhPSILI AND PERISPOMENI
zhDASIA AND PERISPOMENIgSMALL LETTER ALPHA WITH VARIAzfOXIAtEPSILON WITH VARIAzhOXIAuTA WITH VARIA
zdOXIAtIOTA WITH VARIAzeOXIAtOMICRON WITH VARIAzhOXIAtUPSILON WITH VARIAzhOXIAtOMEGA WITH VARIA
zfOXIA<1F80>tALPHA WITH PSILI AND YPOGEGRAMMENIzfDASIA AND YPOGEGRAMMENI
zfPSILI AND VARIA AND YPOGEGRAMMENIzfDASIA AND VARIA AND YPOGEGRAMMENI
zfPSILI AND OXIA AND YPOGEGRAMMENIzfDASIA AND OXIA AND YPOGEGRAMMENI
zfPSILI AND PERISPOMENI AND YPOGEGRAMMENIzfDASIA AND PERISPOMENI AND YPOGEGRAMMENI
gCAPITAL LETTER ALPHA WITH PSILI AND PROSGEGRAMMENIzhDASIA AND PROSGEGRAMMENI
zhPSILI AND VARIA AND PROSGEGRAMMENIzhDASIA AND VARIA AND PROSGEGRAMMENI
zhPSILI AND OXIA AND PROSGEGRAMMENIzhDASIA AND OXIA AND PROSGEGRAMMENI
zhPSILI AND PERISPOMENI AND PROSGEGRAMMENIzhDASIA AND PERISPOMENI AND PROSGEGRAMMENI
gSMALL LETTER ETA WITH PSILI AND YPOGEGRAMMENIzdDASIA AND YPOGEGRAMMENI
zdPSILI AND VARIA AND YPOGEGRAMMENIzdDASIA AND VARIA AND YPOGEGRAMMENI
zdPSILI AND OXIA AND YPOGEGRAMMENIzdDASIA AND OXIA AND YPOGEGRAMMENI
zdPSILI AND PERISPOMENI AND YPOGEGRAMMENIzdDASIA AND PERISPOMENI AND YPOGEGRAMMENI
gCAPITAL LETTER ETA WITH PSILI AND PROSGEGRAMMENIzfDASIA AND PROSGEGRAMMENI
zfPSILI AND VARIA AND PROSGEGRAMMENIzfDASIA AND VARIA AND PROSGEGRAMMENI
zfPSILI AND OXIA AND PROSGEGRAMMENIzfDASIA AND OXIA AND PROSGEGRAMMENI
zfPSILI AND PERISPOMENI AND PROSGEGRAMMENIzfDASIA AND PERISPOMENI AND PROSGEGRAMMENI
gSMALL LETTER OMEGA WITH PSILI AND YPOGEGRAMMENIzfDASIA AND YPOGEGRAMMENI
zfPSILI AND VARIA AND YPOGEGRAMMENIzfDASIA AND VARIA AND YPOGEGRAMMENI
zfPSILI AND OXIA AND YPOGEGRAMMENIzfDASIA AND OXIA AND YPOGEGRAMMENI
zfPSILI AND PERISPOMENI AND YPOGEGRAMMENIzfDASIA AND PERISPOMENI AND YPOGEGRAMMENI
gCAPITAL LETTER OMEGA WITH PSILI AND PROSGEGRAMMENIzhDASIA AND PROSGEGRAMMENI
zhPSILI AND VARIA AND PROSGEGRAMMENIzhDASIA AND VARIA AND PROSGEGRAMMENI
zhPSILI AND OXIA AND PROSGEGRAMMENIzhDASIA AND OXIA AND PROSGEGRAMMENI
zhPSILI AND PERISPOMENI AND PROSGEGRAMMENIzhDASIA AND PERISPOMENI AND PROSGEGRAMMENI
gSMALL LETTER ALPHA WITH VRACHYzfMACRONzfVARIA AND YPOGEGRAMMENIzfYPOGEGRAMMENI
zfOXIA AND YPOGEGRAMMENI<1FB6>zfPERISPOMENIzq AND YPOGEGRAMMENIgCAPITAL LETTER ALPHA WITH VRACHY
zhMACRONzhVARIAzhOXIAzhPROSGEGRAMMENIgKORONISgPROSGEGRAMMENIhSILIhERISPOMENI
gDIALYTIKA AND PERISPOMENIgSMALL LETTER ETA WITH VARIA AND YPOGEGRAMMENIzdYPOGEGRAMMENI
zdOXIA AND YPOGEGRAMMENI<1FC6>zdPERISPOMENIzo AND YPOGEGRAMMENIgCAPITAL LETTER EPSILON WITH VARIA
zjOXIAwTA WITH VARIAzfOXIAzfPROSGEGRAMMENIgPSILI AND VARIAqOXIAqPERISPOMENI
gSMALL LETTER IOTA WITH VRACHYzeMACRONzeDIALYTIKA AND VARIAzsOXIA<1FD6>zePERISPOMENI
zeDIALYTIKA AND PERISPOMENIgCAPITAL LETTER IOTA WITH VRACHYzgMACRONzgVARIAzgOXIA
<1FDD>gDASIA AND VARIAqOXIAqPERISPOMENIgSMALL LETTER UPSILON WITH VRACHYzhMACRON
zhDIALYTIKA AND VARIAzvOXIAtRHO WITH PSILIzdDASIAtUPSILON WITH PERISPOMENI
zhDIALYTIKA AND PERISPOMENIgCAPITAL LETTER UPSILON WITH VRACHYzjMACRONzjVARIAzjOXIAvRHO WITH DASIA
gDIALYTIKA AND VARIAuOXIAgVARIA<1FF2>gSMALL LETTER OMEGA WITH VARIA AND YPOGEGRAMMENI
zfYPOGEGRAMMENIzfOXIA AND YPOGEGRAMMENI<1FF6>zfPERISPOMENIzq AND YPOGEGRAMMENI
gCAPITAL LETTER OMICRON WITH VARIAzjOXIAxEGA WITH VARIAzhOXIAzhPROSGEGRAMMENIgOXIAgDASIA"

end Name
end Text
end WorkflowKit
