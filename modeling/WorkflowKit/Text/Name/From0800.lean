/-
# Names of characters from U+0800 to U+17FF

The names are written as `WorkflowKit.Text.Name` says.
-/

namespace WorkflowKit
namespace Text
namespace Name

/-- The names of the characters from U+0800 to U+17FF. -/
def namesFrom0800 : String := "
<800>aSAMARITAN LETTER ALAFrBITrGAMANrDALATrIYrBAArZENrITrTITrYUTrKAAFrLABATrMIMrNUNrSINGAATrINrFI
rTSAADIYrQUFrRISHrSHANrTAAFkMARK INr-ALAFpOCCLUSIONpDAGESHlODIFIER LETTER EPENTHETIC YUT
lARK EPENTHETIC YUTkVOWEL SIGN LONG EvEvOVERLONG AAvLONG AAvAAvOVERLONG AvLONG AvA
kMODIFIER LETTER SHORT AkVOWEL SIGN SHORT AvLONG UvUkMODIFIER LETTER IkVOWEL SIGN LONG IvIvOvSUKUN
kMARK NEQUDAA<830>kPUNCTUATION NEQUDAAwAFSAAQxNGEDwBAUwATMAAUwSHIYYAALAAkABBREVIATION MARK
kPUNCTUATION MELODIC QITSAwZIQAAwQITSAwZAEFwTURUwARKAANUwSOF MASHFAATwANNAAU
<840>aMANDAIC LETTER HALQApABqGqDqHpUSHENNApAZpITpATTqKSAqKqLqMqNqSpINpAPqSZqQqRqSHqTpDUSHENNApKAD
pAINiAFFRICATION MARKiVOCALIZATION MARKiGEMINATION MARK<85E>iPUNCTUATION
<860>aSYRIAC LETTER MALAYALAM NGAyJAyNYAyTTAyNNAzbNAyBHAyRAyLLAzbLAySSA
<870>aARABIC LETTER ALEF WITH ATTACHED FATHAziTOP RIGHT FATHAyRIGHT MIDDLE STROKE
yLEFT MIDDLE STROKEyATTACHED KASRAziBOTTOM RIGHT KASRAziROUND DOT ABOVEzjIGHT ROUND DOT
ziLEFT ROUND DOTziROUND DOT BELOWyDOT ABOVEyATTACHED TOP RIGHT FATHA AND DOT ABOVE
yRIGHT MIDDLE STROKE AND DOT ABOVEyATTACHED BOTTOM RIGHT KASRA AND DOT ABOVE
ziTOP RIGHT FATHA AND LEFT RINGyRIGHT MIDDLE STROKE AND LEFT RING
yATTACHED BOTTOM RIGHT KASRA AND LEFT RINGziRIGHT HAMZAziLEFT HAMZAhTATWEEL WITH OVERSTRUCK HAMZA
zgWAWuTWO DOTS BELOWhLETTER THIN YEHhBASELINE ROUND DOThRAISED ROUND DOT
hLETTER NOON WITH INVERTED SMALL VoHAH WITH INVERTED SMALL V BELOWoTAH WITH DOT BELOW
xTHREE DOTS BELOWoKEHEH WITH TWO DOTS VERTICALLY BELOWhVERTICAL TAIL<890>hPOUND MARK ABOVE
iIASTRE MARK ABOVE<898>hSMALL HIGH WORD AL-JUZnLOW WORD ISHMAAMxMAALAwTASHEELhMADDA WAAJIB
hSUPERSCRIPT ALEF MOKHASSAShDOUBLED MADDAhHALF MADDA OVER MADDAhLETTER BEH WITH SMALL V BELOW
xHAMZA ABOVEoJEEM WITH TWO DOTS ABOVEoTAH WITH TWO DOTS ABOVE
oFEH WITH DOT BELOW AND THREE DOTS ABOVEoQAF WITH DOT BELOWoLAM WITH DOUBLE BAR
oMEEM WITH THREE DOTS ABOVEoYEH WITH TWO DOTS BELOW AND HAMZA ABOVEzrDOT ABOVEoREH WITH LOOP
oWAW WITH DOT WITHINoROHINGYA YEHoLOW ALEFoDAL WITH THREE DOTS BELOWoSAD WITH THREE DOTS BELOW
oGAF WITH INVERTED STROKEoSTRAIGHT WAWoZAIN WITH INVERTED V ABOVEoAIN WITH THREE DOTS BELOW
oKAF WITH DOT BELOWoQAF WITH DOT BELOW AND NO DOTS ABOVEoBEH WITH SMALL MEEM ABOVE
oPEH WITH SMALL MEEM ABOVEoTEH WITH SMALL TEH ABOVEoREH WITH SMALL NOON ABOVE
oYEH WITH TWO DOTS BELOW AND SMALL NOON ABOVEoAFRICAN FEHwQAFwNOONoPEH WITH SMALL V
oTEH WITH SMALL VpTEH WITH SMALL VpCHEH WITH SMALL VoKEHEH WITH SMALL V
oGHAIN WITH THREE DOTS ABOVEoAFRICAN QAF WITH THREE DOTS ABOVEoJEEM WITH THREE DOTS ABOVEzkBELOW
oLAM WITH SMALL ARABIC LETTER TAH ABOVEoGRAFhSMALL FARSI YEHnHIGH FARSI YEH
sYEH BARREE WITH TWO DOTS BELOWsWORD SAHsZAHhLARGE ROUND DOT ABOVExBELOWhSUKUN BELOW
hLARGE CIRCLE BELOWnROUND DOT INSIDE CIRCLE BELOWhSMALL LOW WAWnHIGH WORD AR-RUBsSADsAINsQAF
sNOON WITH KASRAnLOW NOON WITH KASRAnHIGH WORD ATH-THALATHAyS-SAJDAyN-NISFxSAKTAxQIFxWAQFA
sFOOTNOTE MARKERsSIGN SAFHAhDISPUTED END OF AYAHhTURNED DAMMA BELOWhCURLY FATHAnDAMMAnKASRA
nFATHATANnDAMMATANnKASRATANhTONE ONE DOT ABOVEmTWO DOTS ABOVEmLOOP ABOVEmONE DOT BELOW
mTWO DOTS BELOWmLOOP BELOWhOPEN FATHATANmDAMMATANmKASRATANhSMALL HIGH WAWhFATHA WITH RING
sDOT ABOVEhKASRA WITH DOT BELOWhLEFT ARROWHEAD ABOVEhRIGHT ARROWHEAD ABOVEhLEFT ARROWHEAD BELOW
hRIGHT ARROWHEAD BELOWhDOUBLE RIGHT ARROWHEAD ABOVEzk WITH DOThRIGHT ARROWHEAD ABOVE WITH DOT
hDAMMA WITH DOThMARK SIDEWAYS NOON GHUNNAaDEVANAGARI SIGN INVERTED CANDRABINDUqCANDRABINDU
qANUSVARAqVISARGAlLETTER SHORT AsAtAsItIsUtUsVOCALIC RzbLsCANDRA EsSHORT EsEsAIsCANDRA OsSHORT OsO
sAUsKAtHAsGAtHAsNGAsCAtHAsJAtHAsNYAsTTAuHAsDDAuHAsNNAsTAtHAsDAtHAsNAtNNAsPAtHAsBAtHAsMAsYAsRAtRA
sLAtLAuLAsVAsSHAtSAtAsHAlVOWEL SIGN OExOElSIGN NUKTAqAVAGRAHAlVOWEL SIGN AAwIxIwUxUwVOCALIC RzgR
wCANDRA EwSHORT EwEwAIwCANDRA OwSHORT OwOwAUlSIGN VIRAMAlVOWEL SIGN PRISHTHAMATRA EwAWlOM
lSTRESS SIGN UDATTAxANUDATTAlGRAVE ACCENTlACUTE ACCENTlVOWEL SIGN CANDRA LONG EwUExUElLETTER QA
sKHHAsGHHAsZAsDDDHAsRHAsFAsYYAsVOCALIC RRzbLLlVOWEL SIGN VOCALIC LzgLlDANDAmOUBLE DANDAmIGIT ZERO
rONErTWOsHREErFOURsIVErSIXsEVENrEIGHTrNINElABBREVIATION SIGNlSIGN HIGH SPACING DOTlLETTER CANDRA A
sOEtOEsAWsUEtUEsMARWARI DDAsZHAsHEAVY YAsGGAsJJAsGLOTTAL STOPsDDDAsBBAaBENGALI ANJI
iSIGN CANDRABINDUnANUSVARAnVISARGA<985>iLETTER AqApIqIpUqUpVOCALIC RxL<98F>pEpAI<993>pOpAUpKAqHA
pGAqHApNGApCAqHApJAqHApNYApTTArHApDDArHApNNApTAqHApDAqHApNA<9AA>pPAqHApBAqHApMApYApRA<9B2>pLA
<9B6>pSHAqSAqApHA<9BC>iSIGN NUKTAnAVAGRAHAiVOWEL SIGN AAtIuItUuUtVOCALIC RzdR<9C7>tEtAI<9CB>tOtAU
iSIGN VIRAMAiLETTER KHANDA TA<9D7>iAU LENGTH MARK<9DC>iLETTER RRAqHA<9DF>pYYApVOCALIC RRxLL
iVOWEL SIGN VOCALIC LzdL<9E6>iDIGIT ZEROoONEoTWOpHREEoFOURpIVEoSIXpEVENoEIGHToNINE
iLETTER RA WITH MIDDLE DIAGONALxLOWER DIAGONALiRUPEE MARKoSIGNiCURRENCY NUMERATOR ONEzcTWOzdHREE
zcFOURzcONE LESS THAN THE DENOMINATORrDENOMINATOR SIXTEENiISSHARiGANDA MARKiLETTER VEDIC ANUSVARA
iABBREVIATION SIGNiSANDHI MARK<A01>aGURMUKHI SIGN ADAK BINDIoBINDIoVISARGA<A05>jLETTER ArAqIrIqUrU
<A0F>qEEqAI<A13>qOOqAUqKArHAqGArHAqNGAqCArHAqJArHAqNYAqTTAsHAqDDAsHAqNNAqTArHAqDArHAqNA<A2A>qPArHA
qBArHAqMAqYAqRA<A32>qLArLA<A35>qVAqSHA<A38>rAqHA<A3C>jSIGN NUKTA<A3E>jVOWEL SIGN AAuIvIuUvU
<A47>uEEuAI<A4B>uOOuAUjSIGN VIRAMA<A51>oUDAAT<A59>jLETTER KHHAqGHHAqZAqRRA<A5E>qFA<A66>jDIGIT ZERO
pONEpTWOqHREEpFOURqIVEpSIXqEVENpEIGHTpNINEjTIPPIjADDAKjIRIjURAjEK ONKARjSIGN YAKASH
jABBREVIATION SIGN<A81>cJARATI SIGN CANDRABINDUoANUSVARAoVISARGA<A85>jLETTER ArAqIrIqUrUqVOCALIC R
yLjVOWEL CANDRA E<A8F>jLETTER EqAIjVOWEL CANDRA O<A93>jLETTER OqAUqKArHAqGArHAqNGAqCArHAqJArHAqNYA
qTTAsHAqDDAsHAqNNAqTArHAqDArHAqNA<AAA>qPArHAqBArHAqMAqYAqRA<AB2>qLArLA<AB5>qVAqSHArSArAqHA
<ABC>jSIGN NUKTAoAVAGRAHAjVOWEL SIGN AAuIvIuUvUuVOCALIC RzeRuCANDRA E<AC7>uEuAIuCANDRA O<ACB>uOuAU
jSIGN VIRAMA<AD0>jOM<AE0>jLETTER VOCALIC RRyLLjVOWEL SIGN VOCALIC LzeL<AE6>jDIGIT ZEROpONEpTWO
qHREEpFOURqIVEpSIXqEVENpEIGHTpNINEjABBREVIATION SIGNjRUPEE SIGN<AF9>jLETTER ZHAjSIGN SUKUNpHADDA
oMADDAHoTHREE-DOT NUKTA ABOVEoCIRCLE NUKTA ABOVEoTWO-CIRCLE NUKTA ABOVE
<B01>aORIYA SIGN CANDRABINDUlANUSVARAlVISARGA<B05>gLETTER AoAnIoInUoUnVOCALIC RvL<B0F>nEnAI<B13>nO
nAUnKAoHAnGAoHAnNGAnCAoHAnJAoHAnNYAnTTApHAnDDApHAnNNAnTAoHAnDAoHAnNA<B2A>nPAoHAnBAoHAnMAnYAnRA
<B32>nLAoLA<B35>nVAnSHAoSAoAnHA<B3C>gSIGN NUKTAlAVAGRAHAgVOWEL SIGN AArIsIrUsUrVOCALIC RzbR<B47>rE
rAI<B4B>rOrAUgSIGN VIRAMA<B55>lOVERLINEgAI LENGTH MARKhU LENGTH MARK<B5C>gLETTER RRAoHA<B5F>nYYA
nVOCALIC RRvLLgVOWEL SIGN VOCALIC LzbL<B66>gDIGIT ZEROmONEmTWOnHREEmFOURnIVEmSIXnEVENmEIGHTmNINE
gISSHARgLETTER WAgFRACTION ONE QUARTERtHALFpTHREE QUARTERSpONE SIXTEENTHtEIGHTHpTHREE SIXTEENTHS
<B82>aTAMIL SIGN ANUSVARAlVISARGA<B85>gLETTER AoAnIoInUoU<B8E>nEoEnAI<B92>nOoOnAUnKA<B99>nNGAnCA
<B9C>nJA<B9E>nNYAnTTA<BA3>nNNAnTA<BA8>nNAoNNAnPA<BAE>nMAnYAnRAoRAnLAoLApLAnVAnSHAoSAoAnHA
<BBE>gVOWEL SIGN AArIsIrUsU<BC6>rEsErAI<BCA>rOsOrAUgSIGN VIRAMA<BD0>gOM<BD7>gAU LENGTH MARK
<BE6>gDIGIT ZEROmONEmTWOnHREEmFOURnIVEmSIXnEVENmEIGHTmNINEgNUMBER TENnONE HUNDREDrTHOUSAND
gDAY SIGNgMONTH SIGNgYEAR SIGNgDEBIT SIGNgCREDIT SIGNgAS ABOVE SIGNgRUPEE SIGNgNUMBER SIGN
<C00>bELUGU SIGN COMBINING CANDRABINDU ABOVEnANDRABINDUmANUSVARAmVISARGAmCOMBINING ANUSVARA ABOVE
hLETTER ApAoIpIoUpUoVOCALIC RwL<C0E>oEpEoAI<C12>oOpOoAUoKApHAoGApHAoNGAoCApHAoJApHAoNYAoTTAqHAoDDA
qHAoNNAoTApHAoDApHAoNA<C2A>oPApHAoBApHAoMAoYAoRApRAoLApLAqLAoVAoSHApSApAoHA<C3C>hSIGN NUKTA
mAVAGRAHAhVOWEL SIGN AAsItIsUtUsVOCALIC RzcR<C46>sEtEsAI<C4A>sOtOsAUhSIGN VIRAMA<C55>hLENGTH MARK
hAI LENGTH MARK<C58>hLETTER TSAoDZAoRRRA<C5D>oNAKAARA POLLU<C60>oVOCALIC RRwLL
hVOWEL SIGN VOCALIC LzcL<C66>hDIGIT ZEROnONEnTWOoHREEnFOURoIVEnSIXoEVENnEIGHTnNINE
<C77>hSIGN SIDDHAMhFRACTION DIGIT ZERO FOR ODD POWERS OF FOURwONE FOR ODD POWERS OF FOUR
wTWO FOR ODD POWERS OF FOURxHREE FOR ODD POWERS OF FOURwONE FOR EVEN POWERS OF FOUR
wTWO FOR EVEN POWERS OF FOURxHREE FOR EVEN POWERS OF FOURhSIGN TUUMU
aKANNADA SIGN SPACING CANDRABINDUnCANDRABINDUnANUSVARAnVISARGAnSIDDHAMiLETTER AqApIqIpUqU
pVOCALIC RxL<C8E>pEqEpAI<C92>pOqOpAUpKAqHApGAqHApNGApCAqHApJAqHApNYApTTArHApDDArHApNNApTAqHApDAqHA
pNA<CAA>pPAqHApBAqHApMApYApRAqRApLAqLA<CB5>pVApSHAqSAqApHA<CBC>iSIGN NUKTAnAVAGRAHAiVOWEL SIGN AA
tIuItUuUtVOCALIC RzdR<CC6>tEuEtAI<CCA>tOuOtAUiSIGN VIRAMA<CD5>iLENGTH MARKiAI LENGTH MARK
<CDD>iLETTER NAKAARA POLLUpFA<CE0>pVOCALIC RRxLLiVOWEL SIGN VOCALIC LzdL<CE6>iDIGIT ZEROoONEoTWO
pHREEoFOURpIVEoSIXpEVENoEIGHToNINE<CF1>iSIGN JIHVAMULIYAnUPADHMANIYA
<D00>aMALAYALAM SIGN COMBINING ANUSVARA ABOVEqANDRABINDUpANUSVARApVISARGAkLETTER VEDIC ANUSVARArA
sArIsIrUsUrVOCALIC RzL<D0E>rEsErAI<D12>rOsOrAUrKAsHArGAsHArNGArCAsHArJAsHArNYArTTAtHArDDAtHArNNA
rTAsHArDAsHArNAsNNArPAsHArBAsHArMArYArRAsRArLAsLAtLArVArSHAsSAsArHArTTTAkSIGN VERTICAL BAR VIRAMA
pCIRCULAR VIRAMApAVAGRAHAkVOWEL SIGN AAvIwIvUwUvVOCALIC RzfR<D46>vEwEvAI<D4A>vOwOvAUkSIGN VIRAMA
kLETTER DOT REPHkSIGN PARA<D54>kLETTER CHILLU MyYyLLLkAU LENGTH MARK
kFRACTION ONE ONE-HUNDRED-AND-SIXTIETHxFORTIETHtTHREE EIGHTIETHStONE TWENTIETHyENTH
tTHREE TWENTIETHStONE FIFTHkLETTER ARCHAIC IIrVOCALIC RRzLLkVOWEL SIGN VOCALIC LzfL
<D66>kDIGIT ZEROqONEqTWOrHREEqFOURrIVEqSIXrEVENqEIGHTqNINEkNUMBER TENrONE HUNDREDvTHOUSAND
kFRACTION ONE QUARTERxHALFtTHREE QUARTERStONE SIXTEENTHxEIGHTHtTHREE SIXTEENTHSkDATE MARK
kLETTER CHILLU NNyNyRRyLzLyK<D81>aSINHALA SIGN CANDRABINDUnANUSVARAYAnVISARGAYA<D85>iLETTER AYANNA
qAYANNAqEYANNArEYANNApIYANNAqIYANNApUYANNAqUYANNApIRUYANNAsUYANNAqLUYANNAsUYANNApEYANNAqEYANNA
pAIYANNApOYANNAqOYANNApAUYANNA<D9A>qLPAPRAANA KAYANNApMAHAAPRAANA KAYANNApALPAPRAANA GAYANNA
pMAHAAPRAANA GAYANNApKANTAJA NAASIKYAYApSANYAKA GAYANNApALPAPRAANA CAYANNApMAHAAPRAANA CAYANNA
pALPAPRAANA JAYANNApMAHAAPRAANA JAYANNApTAALUJA NAASIKYAYAxSANYOOGA NAAKSIKYAYApSANYAKA JAYANNA
pALPAPRAANA TTAYANNApMAHAAPRAANA TTAYANNApALPAPRAANA DDAYANNApMAHAAPRAANA DDAYANNA
qUURDHAJA NAYANNApSANYAKA DDAYANNApALPAPRAANA TAYANNApMAHAAPRAANA TAYANNApALPAPRAANA DAYANNA
pMAHAAPRAANA DAYANNApDANTAJA NAYANNA<DB3>pSANYAKA DAYANNApALPAPRAANA PAYANNApMAHAAPRAANA PAYANNA
pALPAPRAANA BAYANNApMAHAAPRAANA BAYANNArYANNApAMBA BAYANNApYAYANNApRAYANNA<DBD>pDANTAJA LAYANNA
<DC0>pVAYANNApTAALUJA SAYANNApMUURDHAJA SAYANNApDANTAJA SAYANNApHAYANNApMUURDHAJA LAYANNApFAYANNA
<DCA>iSIGN AL-LAKUNA<DCF>iVOWEL SIGN AELA-PILLAtKETTI AEDA-PILLAtDIGA AEDA-PILLAtKETTI IS-PILLA
tDIGA IS-PILLAtKETTI PAA-PILLA<DD6>tDIGA PAA-PILLA<DD8>tGAETTA-PILLAtKOMBUVAtDIGA KOMBUVA
tKOMBU DEKAyVA HAA AELA-PILLAzgDIGA AELA-PILLAzgGAYANUKITTAtGAYANUKITTA<DE6>iLITH DIGIT ZEROtONE
tTWOuHREEtFOURuIVEtSIXuEVENtEIGHTtNINE<DF2>iVOWEL SIGN DIGA GAETTA-PILLAzbYANUKITTA
iPUNCTUATION KUNDDALIYA<E01>aTHAI CHARACTER KO KAIqHO KHAIvUATvWAIvONtRAKHANGpNGO NGUpCHO CHANvING
vANGpSO SOpCHO CHOEpYO YINGpDO CHADApTO PATAKqHO THANtNANGMONTHOtPHUTHAOpNO NENpDO DEKpTO TAO
qHO THUNGvAHANvONGpNO NUpBO BAIMAIpPO PLAqHO PHUNGpFO FApPHO PHANpFO FANpPHO SAMPHAOpMO MApYO YAK
pRO RUAqUpLO LINGqUpWO WAENpSO SALAsRUSIsSUApHO HIPpLO CHULApO ANGpHO NOKHUKpPAIYANNOIpSARA A
pMAI HAN-AKATpSARA AAvMuIvIuUEwEuUvUpPHINTHU<E3F>gURRENCY SYMBOL BAHTgHARACTER SARA EuAEuO
uAI MAIMUANzcALAIpLAKKHANGYAOpMAIYAMOKsTAIKHUs EKtTHOuRItCHATTAWApTHANTHAKHATpNIKHAHITpYAMAKKAN
pFONGMANfDIGIT ZEROlONElTWOmHREElFOURmIVElSIXmEVENlEIGHTlNINEfCHARACTER ANGKHANKHUpKHOMUT
<E81>aLAO LETTER KOmHO SUNG<E84>pTAM<E86>lPALI GHAlNGOlCOlPALI CHAlSO TAM<E8C>lPALI JHAlNYO
lPALI NYAqTTAsHAqDDAsHAqNNAlDOlTOmHO SUNGpTAMlPALI DHAlNOlBOlPOmHO SUNGlFO TAMlPHO TAMlFO SUNG
lPALI BHAlMOlYOlLO LING<EA5>pOOT<EA7>lWOlSANSKRIT SHAvSAmO SUNGlHO SUNGlPALI LLAlOlHO TAMeELLIPSIS
eVOWEL SIGN ApMAI KANpAAqMpIqIpYqYpUqUeSIGN PALI VIRAMAeVOWEL SIGN MAI KONeSEMIVOWEL SIGN LOtNYO
<EC0>eVOWEL SIGN EqIpOpAYqI<EC6>eKO LA<EC8>eTONE MAI EKnTHOoInCATAWAeCANCELLATION MARKeNIGGAHITA
<ED0>eDIGIT ZEROkONEkTWOlHREEkFOURlIVEkSIXlEVENkEIGHTkNINE<EDC>eHO NOhMOeLETTER KHMU GOqNYO
<F00>aTIBETAN SYLLABLE OMiMARK GTER YIG MGO TRUNCATED Azb-UM RNAM BCAD MAzfGTER TSHEG MA
nINITIAL YIG MGO MDUN MAnCLOSING YIG MGO SGAB MAoARET YIG MGO PHUR SHAD MAnYIG MGO TSHEG SHAD MA
nSBRUL SHADnBSKUR YIG MGOoKA- SHOG YIG MGOnINTERSYLLABIC TSHEGnDELIMITER TSHEG BSTARnSHAD
nNYIS SHADnTSHEG SHADnNYIS TSHEG SHADnRIN CHEN SPUNGS SHADoGYA GRAM SHAD
nCARET -DZUD RTAGS ME LONG CANnGTER TSHEGiLOGOTYPE SIGN CHAD RTAGSwLHAG RTAGS
iASTROLOGICAL SIGN SGRA GCAN -CHAR RTAGSzb-KHYUD PAzbSDONG TSHUGSiSIGN RDEL DKAR GCIGyNYISySUM
sNAG GCIGxNYISsDKAR RDEL NAGiDIGIT ZEROoONEoTWOpHREEoFOURpIVEoSIXpEVENoEIGHToNINEoHALF ONEtTWO
uHREEtFOURuIVEtSIXuEVENtEIGHTtNINEtZEROiMARK BSDUS RTAGSnNGAS BZUNG NYI ZLA
nCARET -DZUD RTAGS BZHI MIG CANnNGAS BZUNG SGOR RTAGSnCHE MGOnTSA -PHRUnGUG RTAGS GYONzAS
nANG KHANG GYONzASiSIGN YAR TSHESnMAR TSHESiLETTER KAqHApGAqHApNGApCAqHApJA<F49>pNYApTTArHApDDArHA
pNNApTAqHApDAqHApNApPAqHApBAqHApMApTSArHApDZArHApWApZHAqAp-ApYApRApLApSHAqSAqApHApApKSSA
pFIXED-FORM RApKKApRRA<F71>iVOWEL SIGN AAtIuItUuUtVOCALIC RzdRzcLzdLtEuEtOuOiSIGN RJES SU NGA RO
oNAM BCADiVOWEL SIGN REVERSED IzeIiSIGN NYI ZLA NAA DAnSNA LDANiMARK HALANTAnPALUTAiSIGN LCI RTAGS
nYANG RTAGSnLCE TSA CANnMCHU CANnGRU CAN RGYINGSrMED RGYINGSnINVERTED MCHU CAN
jUBJOINED SIGN LCE TSA CANxMCHU CANxINVERTED MCHU CANsLETTER KAzbHAzGAzbHAzNGAzCAzbHAzJA<F99>zNYA
zTTAzcHAzDDAzcHAzNNAzTAzbHAzDAzbHAzNAzPAzbHAzBAzbHAzMAzTSAzcHAzDZAzcHAzWAzZHAzbAz-AzYAzRAzLAzSHA
zbSAzbAzHAzAzKSSAzFIXED-FORM WAzlYAzlRA<FBE>iKU RU KHAr BZHI MIG CANiCANTILLATION SIGN HEAVY BEAT
zbLIGHT BEATzbCANG TE-UzbSBUB -CHALiSYMBOL DRIL BUpRDO RJEpPADMA GDANpRDO RJE RGYA GRAMpPHUR PA
pNOR BUv NYIS -KHYILwGSUM -KHYILwBZHI -KHYIL<FCE>jIGN RDEL NAG RDEL DKARwGSUM
iMARK BSKA- SHOG GI MGO RGYANnMNYAM YIG GI MGO RGYANnNYIS TSHEG
nINITIAL BRDA RNYING YIG MGO MDUN MAnCLOSING BRDA RNYING YIG MGO SGAB MAaRIGHT-FACING SVASTI SIGN
aLEFT-FACING SVASTI SIGNaRIGHT-FACING SVASTI SIGN WITH DOTSaLEFT-FACING SVASTI SIGN WITH DOTS
aTIBETAN MARK LEADING MCHAN RTAGSnTRAILING MCHAN RTAGS<1000>aMYANMAR LETTER KAqHApGAqHApNGApCAqHA
pJAqHApNYAqNYApTTArHApDDArHApNNApTAqHApDAqHApNApPAqHApBAqHApMApYApRApLApWApSApHApLLApApSHAN ApIqI
pUqUpEpMON EpOpAUiVOWEL SIGN TALL AAtAAtIuItUuUtEtAItMON IIxOtE ABOVEiSIGN ANUSVARAnDOT BELOW
nVISARGApRAMAnASATiCONSONANT SIGN MEDIAL YAzfRAzfWAzfHAiLETTER GREAT SAiDIGIT ZEROoONEoTWOpHREE
oFOURpIVEoSIXpEVENoEIGHToNINEiSIGN LITTLE SECTIONnSECTIONjYMBOL LOCATIVEpCOMPLETEDpAFOREMENTIONED
pGENITIVEiLETTER SHAqSApVOCALIC RyRxLyLiVOWEL SIGN VOCALIC RzdRzcLzdLiLETTER MON NGAtJHAtBBAvE
iCONSONANT SIGN MON MEDIAL NAzjMAzjLAiLETTER SGAW KAREN SHAiVOWEL SIGN SGAW KAREN EU
iTONE MARK SGAW KAREN HATHIzeKE PHOiLETTER WESTERN PWO KAREN THAziPWA
iVOWEL SIGN WESTERN PWO KAREN EUzmUEiSIGN WESTERN PWO KAREN TONE-1zl2zl3zl4zl5
iLETTER EASTERN PWO KAREN NNAziYWAziGHWAiVOWEL SIGN GEBA KAREN ItKAYAH OEzUzEEiLETTER SHAN KAvHA
uGAuCAuZAuNYAuDAuNAuPHAuFAuBAuTHAuHAiCONSONANT SIGN SHAN MEDIAL WAiVOWEL SIGN SHAN AAyEz ABOVE
yFINAL YiSIGN SHAN TONE-2x3x5x6sCOUNCIL TONE-2zg3zbEMPHATIC TONEiLETTER RUMAI PALAUNG FA
iSIGN RUMAI PALAUNG TONE-5jHAN DIGIT ZEROtONEtTWOuHREEtFOURuIVEtSIXuEVENtEIGHTtNINE
jIGN KHAMTI TONE-1z3iVOWEL SIGN AITON AzbIiSYMBOL SHAN ONEuEXCLAMATIONaGEORGIAN CAPITAL LETTER AN
yBANyGANyDONyENyVINyZENyTANyINyKANyLASyMANyNARyONyPARyZHARyRAEySANyTARyUNyPHARyKHARyGHANyQARySHIN
yCHINzANyJILyCILzHARyXANyJHANyHAEzEzIEyWEyHARzOE<10C7>yYN<10CD>yAEN<10D0>jLETTER ANqBANqGANqDONqEN
qVINqZENqTANqINqKANqLASqMANqNARqONqPARqZHARqRAEqSANqTARqUNqPHARqKHARqGHANqQARqSHINqCHINrANqJILqCIL
rHARqXANqJHANqHAErErIEqWEqHARrOEqFIqYNqELIFIqTURNED GANqAINjPARAGRAPH SEPARATOR
aMODIFIER LETTER GEORGIAN NARaGEORGIAN LETTER AENqHARD SIGNqLABIAL SIGNaHANGUL CHOSEONG KIYEOK
qSSANGKIYEOKqNIEUNqTIKEUTqSSANGTIKEUTqRIEULqMIEUMqPIEUPqSSANGPIEUPrIOSrSANGSIOSqIEUNGqCIEUC
qSSANGCIEUCqCHIEUCHqKHIEUKHqTHIEUTHqPHIEUPHqHIEUHqNIEUN-KIYEOKqSSANGNIEUNqNIEUN-TIKEUTwPIEUP
qTIKEUT-KIYEOKqRIEUL-NIEUNqSSANGRIEULqRIEUL-HIEUHqKAPYEOUNRIEULqMIEUM-PIEUPqKAPYEOUNMIEUM
qPIEUP-KIYEOKwNIEUNwTIKEUTwSIOSzb-KIYEOKzcTIKEUTzcPIEUPxSANGSIOSxIOS-CIEUCwCIEUCxHIEUCHwTHIEUTH
wPHIEUPHqKAPYEOUNPIEUPySSANGPIEUPqSIOS-KIYEOKvNIEUNvTIKEUTvRIEULvMIEUMvPIEUPzb-KIYEOKvSSANGSIOS
vIEUNGvCIEUCwHIEUCHvKHIEUKHvTHIEUTHvPHIEUPHvHIEUHqCHITUEUMSIOSzSANGSIOSrEONGCHIEUMSIOSzdSANGSIOS
qPANSIOSqIEUNG-KIYEOKwTIKEUTwMIEUMwPIEUPwSIOSwPANSIOSqSSANGIEUNGqIEUNG-CIEUCxHIEUCHwTHIEUTH
wPHIEUPHqYESIEUNGqCIEUC-IEUNGrHITUEUMCIEUCySSANGCIEUCrEONGCHIEUMCIEUCzcSSANGCIEUCrHIEUCH-KHIEUKH
yHIEUHtTUEUMCHIEUCHrEONGCHIEUMCHIEUCHqPHIEUPH-PIEUPqKAPYEOUNPHIEUPHqSSANGHIEUHqYEORINHIEUH
qKIYEOK-TIKEUTqNIEUN-SIOSwCIEUCwHIEUHqTIKEUT-RIEULqFILLERhJUNGSEONG FILLERrAsErYAtErEOrErYEOsErO
rWAtErOErYOrUrWEOsEsIrYUrEUrYIrIrA-OtUrYA-OuYOrEO-OuUuEUrYEO-OvUrO-EOtEtYEtOtUrYO-YAwEvEOuOuIrU-A
uEtEO-EUtYEtUrYU-AuEOuEuYEOvEuUuIrEU-UuEUrYI-UrI-AtYAtOtUtEUtARAEArARAEAw-EOxUxIrSSANGARAEArA-EU
rYA-UsEO-YArO-YAvEiONGSEONG KIYEOKrSSANGKIYEOKrKIYEOK-SIOSrNIEUNw-CIEUCxHIEUHrTIKEUTrRIEULw-KIYEOK
xMIEUMxPIEUPxSIOSxTHIEUTHxPHIEUPHxHIEUHrMIEUMrPIEUPw-SIOSrSIOSsSANGSIOSrIEUNGrCIEUCsHIEUCHrKHIEUKH
rTHIEUTHrPHIEUPHrHIEUHrKIYEOK-RIEULySIOS-KIYEOKrNIEUN-KIYEOKxTIKEUTxSIOSxPANSIOSxTHIEUTH
rTIKEUT-KIYEOKyRIEULrRIEUL-KIYEOK-SIOSxNIEUNxTIKEUTze-HIEUHrSSANGRIEULrRIEUL-MIEUM-KIYEOKzeSIOS
xPIEUP-SIOSzeHIEUHxKAPYEOUNPIEUPxSSANGSIOSxPANSIOSxKHIEUKHxYEORINHIEUHrMIEUM-KIYEOKxRIEULxPIEUP
xSIOSySANGSIOSxPANSIOSxCHIEUCHxHIEUHrKAPYEOUNMIEUMrPIEUP-RIEULxPHIEUPHxHIEUHrKAPYEOUNPIEUP
rSIOS-KIYEOKwTIKEUTwRIEULwPIEUPrPANSIOSrIEUNG-KIYEOKxSSANGKIYEOKrSSANGIEUNGrIEUNG-KHIEUKHrYESIEUNG
z-SIOSzbPANSIOSrPHIEUPH-PIEUPrKAPYEOUNPHIEUPHrHIEUH-NIEUNxRIEULxMIEUMxPIEUPrYEORINHIEUH
rKIYEOK-NIEUNyPIEUPyCHIEUCHyKHIEUKHyHIEUHrSSANGNIEUNaETHIOPIC SYLLABLE HAtUtItAAtEEtEtOuAsLAtUtI
tAAtEEtEtOtWAsHHAuUuIuAAuEEuEuOuWAsMAtUtItAAtEEtEtOtWAsSZAuUuIuAAuEEuEuOuWAsRAtUtItAAtEEtEtOtWAsSA
tUtItAAtEEtEtOtWAtHAuUuIuAAuEEuEuOuWAsQAtUtItAAtEEtEtOuAtWA<124A>uIuAAuEEuE<1250>tHAuUuIuAAuEEuEuO
<1258>uWA<125A>vIvAAvEEvE<1260>sBAtUtItAAtEEtEtOtWAsVAtUtItAAtEEtEtOtWAsTAtUtItAAtEEtEtOtWAsCAtUtI
tAAtEEtEtOtWAsXAtUtItAAtEEtEtOuAtWA<128A>uIuAAuEEuE<1290>sNAtUtItAAtEEtEtOtWAtYAuUuIuAAuEEuEuOuWA
sGLOTTAL AzbUzbIzbAAzbEEzbEzbOzbWAsKAtUtItAAtEEtEtOuAtWA<12B2>uIuAAuEEuE<12B8>tXAuUuIuAAuEEuEuO
<12C0>uWA<12C2>vIvAAvEEvE<12C8>sWAtUtItAAtEEtEtOuAsPHARYNGEAL AzeUzeIzeAAzeEEzeEzeO<12D8>sZAtUtI
tAAtEEtEtOtWAtHAuUuIuAAuEEuEuOuWAsYAtUtItAAtEEtEtOuAsDAtUtItAAtEEtEtOtWAtDAuUuIuAAuEEuEuOuWAsJAtU
tItAAtEEtEtOtWAsGAtUtItAAtEEtEtOuAtWA<1312>uIuAAuEEuE<1318>tGAuUuIuAAuEEuEuOuWAAsTHAuUuIuAAuEEuEuO
uWAsCHAuUuIuAAuEEuEuOuWAsPHAuUuIuAAuEEuEuOuWAsTSAuUuIuAAuEEuEuOuWAtZAuUuIuAAuEEuEuOvAsFAtUtItAAtEE
tEtOtWAsPAtUtItAAtEEtEtOtWAsRYAsMYAsFYA<135D>jCOMBINING GEMINATION AND VOWEL LENGTH MARK
tVOWEL LENGTH MARKtGEMINATION MARKjSECTION MARKjWORDSPACEjFULL STOPjCOMMAjSEMICOLONjCOLON
jPREFACE COLONjQUESTION MARKjPARAGRAPH SEPARATORjDIGIT ONEpTWOqHREEpFOURqIVEpSIXqEVENpEIGHTpNINE
jNUMBER TENrWENTYrHIRTYqFORTYrIFTYqSIXTYrEVENTYqEIGHTYqNINETYqHUNDREDqTEN THOUSAND
<1380>jSYLLABLE SEBATBEIT MWAsMWIuEEuEsSEBATBEIT BWAsBWIuEEuEsSEBATBEIT FWAsFWIuEEuEsSEBATBEIT PWA
sPWIuEEuEjTONAL MARK YIZETuDERETuRIKRIKuSHORT RIKRIKuDIFATuKENATuCHIRETuHIDETuDERET-HIDETuKURT
<13A0>aCHEROKEE LETTER AqEqIqOqUqVqGAqKAqGErIrOrUrVqHArErIrOrUrVqLArErIrOrUrVqMArErIrOrUqNAqHNA
qNAHrErIrOrUrVqQUAsEsIsOsUsVqSAqSrErIrOrUrVqDAqTAqDEqTEqDIqTIqDOrUrVrLAqTLAsEsIsOsUsVrSAsEsIsOsUsV
qWArErIrOrUrVqYArErIrOrUrVqMV<13F8>jSMALL LETTER YExIxOxUxVwMV<1400>bANADIAN SYLLABICS HYPHENtE
tAAItIuItOuOtY-CREE OOtCARRIER EEzcItAuAtWEvST-CREE WEuIuEST-CREE WIuIIuEST-CREE WIIuOuEST-CREE WO
uOOuEST-CREE WOOtNASKAPI WOOtWAuEST-CREE WAuAAuEST-CREE WAAtNASKAPI WAAtAItY-CREE WtGLOTTAL STOP
tFINAL ACUTEzGRAVEzBOTTOM HALF RINGzTOP HALF RINGzRIGHT HALF RINGzcNGzDOUBLE ACUTE
zhSHORT VERTICAL STROKESzMIDDLE DOTzSHORT HORIZONTAL STROKEzPLUSzDOWN TACKtENtINtONtANtPEuAAIuIvI
uOvOtY-CREE POOtCARRIER HEEzdItPAvAuWEtWEST-CREE PWEtPWItWEST-CREE PWItPWIItWEST-CREE PWIItPWO
tWEST-CREE PWOtPWOOtWEST-CREE PWOOtPWAtWEST-CREE PWAtPWAAtWEST-CREE PWAAtY-CREE PWAAtPtWEST-CREE P
tCARRIER HtTEuAAIuIvIuOvOtY-CREE TOOtCARRIER DEEzdItTAvAuWEtWEST-CREE TWEtTWItWEST-CREE TWItTWII
tWEST-CREE TWIItTWOtWEST-CREE TWOtTWOOtWEST-CREE TWOOtTWAtWEST-CREE TWAtTWAAtWEST-CREE TWAA
tNASKAPI TWAAtTuTEvIvOvAtKEuAAIuIvIuOvOtY-CREE KOOtKAvAuWEtWEST-CREE KWEtKWItWEST-CREE KWItKWII
tWEST-CREE KWIItKWOtWEST-CREE KWOtKWOOtWEST-CREE KWOOtKWAtWEST-CREE KWAtKWAAtWEST-CREE KWAA
tNASKAPI KWAAtKuWtSOUTH-SLAVEY KEHziIHziOHziAHtCEuAAIuIvIuOvOtY-CREE COOtCAvAuWEtWEST-CREE CWEtCWI
tWEST-CREE CWItCWIItWEST-CREE CWIItCWOtWEST-CREE CWOtCWOOtWEST-CREE CWOOtCWAtWEST-CREE CWAtCWAA
tWEST-CREE CWAAtNASKAPI CWAAtCtSAYISI THtMEuAAIuIvIuOvOtY-CREE MOOtMAvAuWEtWEST-CREE MWEtMWI
tWEST-CREE MWItMWIItWEST-CREE MWIItMWOtWEST-CREE MWOtMWOOtWEST-CREE MWOOtMWAtWEST-CREE MWAtMWAA
tWEST-CREE MWAAtNASKAPI MWAAtMtWEST-CREE MtMHtATHAPASCAN MtSAYISI MtNEuAAIuIvIuOvOtY-CREE NOOtNAvA
uWEtWEST-CREE NWEtNWAtWEST-CREE NWAtNWAAtWEST-CREE NWAAtNASKAPI NWAAtNtCARRIER NGtNHtLEuAAIuIvIuO
vOtY-CREE LOOtLAvAuWEtWEST-CREE LWEtLWItWEST-CREE LWItLWIItWEST-CREE LWIItLWOtWEST-CREE LWOtLWOO
tWEST-CREE LWOOtLWAtWEST-CREE LWAtLWAAtWEST-CREE LWAAtLtWEST-CREE LtMEDIAL LtSEuAAIuIvIuOvO
tY-CREE SOOtSAvAuWEtWEST-CREE SWEtSWItWEST-CREE SWItSWIItWEST-CREE SWIItSWOtWEST-CREE SWOtSWOO
tWEST-CREE SWOOtSWAtWEST-CREE SWAtSWAAtWEST-CREE SWAAtNASKAPI SWAAtStATHAPASCAN StSWtBLACKFOOT S
tMOOSE-CREE SKtNASKAPI SKWzd-WzdPWAzdTWAzdKWAzdCWAtSHEvIwIvOwOvAwAvWEtWEST-CREE SHWEtSHWI
tWEST-CREE SHWItSHWIItWEST-CREE SHWIItSHWOtWEST-CREE SHWOtSHWOOtWEST-CREE SHWOOtSHWA
tWEST-CREE SHWAtSHWAAtWEST-CREE SHWAAtSHtYEuAAIuIvIuOvOu-CREE YOOuAvAuWEtWEST-CREE YWEtYWI
tWEST-CREE YWItYWIItWEST-CREE YWIItYWOtWEST-CREE YWOtYWOOtWEST-CREE YWOOtYWAtWEST-CREE YWAtYWAA
tWEST-CREE YWAAtNASKAPI YWAAtYtBIBLE-CREE YtWEST-CREE YtSAYISI YItREu-CREE REtWEST-CREE LEtRAAIuI
vIuOvOtWEST-CREE LOtRAvAtWEST-CREE LAtRWAAtWEST-CREE RWAAtRtWEST-CREE RtMEDIAL RtFEuAAIuIvIuOvOuA
vAuWAAtWEST-CREE FWAAtFtTHEtN-CREE THEtTHItN-CREE THItTHIItN-CREE THIItTHOwOvAwAvWAA
tWEST-CREE THWAAtTHuTHEwIwOwAvHuYEvIvOvAtNUNAVIK HEzdIzeIzdOzeOzdAzeAzcHyUT HtHKtQAAIuIvIuOvOuAvA
tQtTLHEwIwOwAtWEST-CREE REzfIzfOzfAtNGAAIvIwIvOwOvAwAuGuNGtSAYISI SHEzdIzdOzdAtWOODS-CREE THEzhI
zhOzhAzgHtLHIwIvOwOvAwAuHtTH-CREE THEzeIzfIzeOzfOzeAzfAzdHtAIVILIK BtBLACKFOOT EzeIzeOzeAzeWEzfI
zfOzfAzeNEzfIzfOzfAzeKEzfIzfOzfAtSAYISI HEzcIzcOzcAtCARRIER GHUzeOzeEzfEzeIzeAzcRUzdOzdEzeEzdIzdA
zcWUzdOzdEzeEzdIzdAzcHWUzeOzeEzfEzeIzeAzcTHUzeOzeEzfEzeIzeAzdTUzeOzeEzfEzeIzeAzcPUzdOzdEzeEzdIzdA
zcPzcGUzdOzdEzeEzdIzdAzcKHUzeOzeEzfEzeIzeAzdKUzeOzeEzfEzeIzeAzdKzcNUzdOzdEzeEzdIzdAzcMUzdOzdEzeE
zdIzdAzcYUzdOzdEzeEzdIzdAzcJUtSAYISI JUtCARRIER JOzdEzeEzdItSAYISI JItCARRIER JAzdJUzeOzeEzfEzeI
zeAzcLUzdOzdEzeEzdIzdAzcDLUzeOzeEzfEzeIzeAzcLHUzeOzeEzfEzeIzeAzcTLHUzfOzfEzgEzfIzfAzeUzeOzeEzfEzeI
zeAzcZUzdOzdEzeEzdIzdAzcZzcINITIAL ZzcDZUzeOzeEzfEzeIzeAzcSUzdOzdEzeEzdIzdAzdHUzeOzeEzfEzeIzeAzdH
zcTSUzeOzeEzfEzeIzeAzcCHUzeOzeEzfEzeIzeAzcTTSUzfOzfEzgEzfIzfAuHI SIGNtFULL STOPtQAItNGAIuNGIxIwOxO
wAxAtWOODS-CREE THWEEziIzjIziOzjOziAzjAzfFINAL THtBLACKFOOT WaOGHAM SPACE MARKgLETTER BEITHnLUIS
nFEARNnSAILnNIONnUATHnDAIRnTINNEnCOLLoEIRTnMUINnGORTnNGEADALnSTRAIFnRUISnAILMnONNnURnEADHADH
nIODHADHnEABHADHnORnUILLEANNnIFINnEAMHANCHOLLnPEITHgFEATHER MARKgREVERSED FEATHER MARK
<16A0>aRUNIC LETTER FEHU FEOH FE FnVnURUZ UR UnYRnYnWnTHURISAZ THURS THORNnETHnANSUZ AnOS OnAC A
oESCnLONG-BRANCH-OSS OnSHORT-TWIG-OSS OnOoEoNnRAIDO RAD REID RnKAUNAnCENnKAUN KnGnENGnGEBO GYFU G
oARnWUNJO WYNN WnHAGLAZ HpEGL HnLONG-BRANCH-HAGALL HnSHORT-TWIG-HAGALL HnNAUDIZ NYD NAUD N
nSHORT-TWIG-NAUD NnDOTTED-NnISAZ IS ISS InEnJERAN JnGERnLONG-BRANCH-AR AEnSHORT-TWIG-AR AnIWAZ EOH
nPERTHO PEORTH PnALGIZ EOLHXnSOWILO SoIGEL LONG-BRANCH-SOL SoHORT-TWIG-SOL SnCnZnTIWAZ TIR TYR T
nSHORT-TWIG-TYR TnDnBERKANAN BEORC BJARKAN BnSHORT-TWIG-BJARKAN BnDOTTED-PnOPEN-PnEHWAZ EH E
nMANNAZ MAN MnLONG-BRANCH-MADR MnSHORT-TWIG-MADR MnLAUKAZ LAGU LOGR LnDOTTED-LnINGWAZpG
nDAGAZ DAEG DnOTHALAN ETHEL OnEARnIORnCWEORTHoALCoEALCnSTANnLONG-BRANCH-YRnSHORT-TWIG-YR
nICELANDIC-YRnQnXgSINGLE PUNCTUATIONgMULTIPLE PUNCTUATIONgCROSS PUNCTUATIONgARLAUG SYMBOL
gTVIMADUR SYMBOLgBELGTHOR SYMBOLgLETTER KnSHnOOnFRANKS CASKET OSzcISzcEHzcACzdESC
<1700>aTAGALOG LETTER ApIpUpKApGApNGApTApDApNApPApBApMApYApRApLApWApSApHAiVOWEL SIGN ItU
iSIGN VIRAMAnPAMUDPOD<171F>iLETTER ARCHAIC RAaHANUNOO LETTER ApIpUpKApGApNGApTApDApNApPApBApMApYA
pRApLApWApSApHAiVOWEL SIGN ItUiSIGN PAMUDPODaPHILIPPINE SINGLE PUNCTUATIONlDOUBLE PUNCTUATION
<1740>aBUHID LETTER AnInUnKAnGAnNGAnTAnDAnNAnPAnBAnMAnYAnRAnLAnWAnSAnHAgVOWEL SIGN IrU
<1760>aTAGBANWA LETTER AqIqUqKAqGAqNGAqTAqDAqNAqPAqBAqMAqYA<176E>qLAqWAqSA<1772>jVOWEL SIGN IuU
<1780>aKHMER LETTER KAoHAoOoHOnNGOnCAoHAoOoHOnNYOnDAnTTHAnDOnTTHOnNNOnTAoHAoOoHOnNOnBAnPHAoOoHOnMO
nYOnROnLOnVOnSHAoSOoAnHAnLAnQAgINDEPENDENT VOWEL QAQzbAzIzbIzUzbKzbUzcVyRYzbYyLYzbYyQEzAI
zOO TYPE ONEziTWOzAUgVOWEL INHERENT AQwAmSIGN AArIsIrYsYrUsUsArOErYArIErErAEsIrOOrAUgSIGN NIKAHIT
lREAHMUKlYUUKALEAPINTUlMUUSIKATOANlTRIISAPlBANTOClROBATlTOANDAKHIATlKAKABATlAHSDAlSAMYOK SANNYA
lVIRIAMlCOENGlBATHAMASATlKHANlBARIYOOSANlCAMNUC PII KUUHlLEK TOOlBEYYALlPHNAEK MUANlKOOMUUT
gCURRENCY SYMBOL RIELgSIGN AVAKRAHASANYAmTTHACAN<17E0>gDIGIT ZEROmONEmTWOnHREEmFOURnIVEmSIXnEVEN
mEIGHTmNINE<17F0>gSYMBOL LEK ATTAK SONxMUOYxPIIxBEIyUONxPRAMzc-MUOYzdPIIzdBEIzeUON"

end Name
end Text
end WorkflowKit
