/-
# Names of characters from U+0000 to U+07FF

The names are written as `WorkflowKit.Text.Name` says.
-/

namespace WorkflowKit
namespace Text
namespace Name

/-- The names of the characters from U+0000 to U+07FF. -/
def namesFrom0000 : String := "
<20>aSPACEaEXCLAMATION MARKaQUOTATION MARKaNUMBER SIGNaDOLLAR SIGNaPERCENT SIGNaAMPERSAND
bPOSTROPHEaLEFT PARENTHESISaRIGHT PARENTHESISaASTERISKaPLUS SIGNaCOMMAaHYPHEN-MINUSaFULL STOP
aSOLIDUSaDIGIT ZEROgONEgTWOhHREEgFOURhIVEgSIXhEVENgEIGHTgNINEaCOLONaSEMICOLONaLESS-THAN SIGN
aEQUALS SIGNaGREATER-THAN SIGNaQUESTION MARKaCOMMERCIAL ATaLATIN CAPITAL LETTER AvBvCvDvEvFvGvHvI
vJvKvLvMvNvOvPvQvRvSvTvUvVvWvXvYvZbEFT SQUARE BRACKETaREVERSE SOLIDUSbIGHT SQUARE BRACKET
aCIRCUMFLEX ACCENTaLOW LINEaGRAVE ACCENTaLATIN SMALL LETTER AtBtCtDtEtFtGtHtItJtKtLtMtNtOtPtQtRtS
tTtUtVtWtXtYtZbEFT CURLY BRACKETaVERTICAL LINEaRIGHT CURLY BRACKETaTILDE<A0>aNO-BREAK SPACE
aINVERTED EXCLAMATION MARKaCENT SIGNaPOUND SIGNaCURRENCY SIGNaYEN SIGNaBROKEN BARaSECTION SIGN
aDIAERESISaCOPYRIGHT SIGNaFEMININE ORDINAL INDICATORaLEFT-POINTING DOUBLE ANGLE QUOTATION MARK
aNOT SIGNaSOFT HYPHENaREGISTERED SIGNaMACRONaDEGREE SIGNaPLUS-MINUS SIGNaSUPERSCRIPT TWOnHREE
aACUTE ACCENTaMICRO SIGNaPILCROW SIGNaMIDDLE DOTaCEDILLAaSUPERSCRIPT ONE
aMASCULINE ORDINAL INDICATORaRIGHT-POINTING DOUBLE ANGLE QUOTATION MARK
aVULGAR FRACTION ONE QUARTERuHALFqTHREE QUARTERSaINVERTED QUESTION MARK
aLATIN CAPITAL LETTER A WITH GRAVEzdACUTEzdCIRCUMFLEXzdTILDEzdDIAERESISzdRING ABOVEwE
vC WITH CEDILLAvE WITH GRAVEzdACUTEzdCIRCUMFLEXzdDIAERESISvI WITH GRAVEzdACUTEzdCIRCUMFLEX
zdDIAERESISvETHvN WITH TILDEvO WITH GRAVEzdACUTEzdCIRCUMFLEXzdTILDEzdDIAERESISaMULTIPLICATION SIGN
aLATIN CAPITAL LETTER O WITH STROKEvU WITH GRAVEzdACUTEzdCIRCUMFLEXzdDIAERESISvY WITH ACUTEvTHORN
gSMALL LETTER SHARP StA WITH GRAVEzbACUTEzbCIRCUMFLEXzbTILDEzbDIAERESISzbRING ABOVEuE
tC WITH CEDILLAtE WITH GRAVEzbACUTEzbCIRCUMFLEXzbDIAERESIStI WITH GRAVEzbACUTEzbCIRCUMFLEX
zbDIAERESIStETHtN WITH TILDEtO WITH GRAVEzbACUTEzbCIRCUMFLEXzbTILDEzbDIAERESISaDIVISION SIGN
aLATIN SMALL LETTER O WITH STROKEtU WITH GRAVEzbACUTEzbCIRCUMFLEXzbDIAERESIStY WITH ACUTEtTHORN
tY WITH DIAERESISgCAPITAL LETTER A WITH MACRONgSMALL LETTER A WITH MACRON
gCAPITAL LETTER A WITH BREVEgSMALL LETTER A WITH BREVEgCAPITAL LETTER A WITH OGONEK
gSMALL LETTER A WITH OGONEKgCAPITAL LETTER C WITH ACUTEgSMALL LETTER C WITH ACUTE
gCAPITAL LETTER C WITH CIRCUMFLEXgSMALL LETTER C WITH CIRCUMFLEXgCAPITAL LETTER C WITH DOT ABOVE
gSMALL LETTER C WITH DOT ABOVEgCAPITAL LETTER C WITH CARONgSMALL LETTER C WITH CARON
gCAPITAL LETTER D WITH CARONgSMALL LETTER D WITH CARONgCAPITAL LETTER D WITH STROKE
gSMALL LETTER D WITH STROKEgCAPITAL LETTER E WITH MACRONgSMALL LETTER E WITH MACRON
gCAPITAL LETTER E WITH BREVEgSMALL LETTER E WITH BREVEgCAPITAL LETTER E WITH DOT ABOVE
gSMALL LETTER E WITH DOT ABOVEgCAPITAL LETTER E WITH OGONEKgSMALL LETTER E WITH OGONEK
gCAPITAL LETTER E WITH CARONgSMALL LETTER E WITH CARONgCAPITAL LETTER G WITH CIRCUMFLEX
gSMALL LETTER G WITH CIRCUMFLEXgCAPITAL LETTER G WITH BREVEgSMALL LETTER G WITH BREVE
gCAPITAL LETTER G WITH DOT ABOVEgSMALL LETTER G WITH DOT ABOVEgCAPITAL LETTER G WITH CEDILLA
gSMALL LETTER G WITH CEDILLAgCAPITAL LETTER H WITH CIRCUMFLEXgSMALL LETTER H WITH CIRCUMFLEX
gCAPITAL LETTER H WITH STROKEgSMALL LETTER H WITH STROKEgCAPITAL LETTER I WITH TILDE
gSMALL LETTER I WITH TILDEgCAPITAL LETTER I WITH MACRONgSMALL LETTER I WITH MACRON
gCAPITAL LETTER I WITH BREVEgSMALL LETTER I WITH BREVEgCAPITAL LETTER I WITH OGONEK
gSMALL LETTER I WITH OGONEKgCAPITAL LETTER I WITH DOT ABOVEgSMALL LETTER DOTLESS I
gCAPITAL LIGATURE IJgSMALL LIGATURE IJgCAPITAL LETTER J WITH CIRCUMFLEX
gSMALL LETTER J WITH CIRCUMFLEXgCAPITAL LETTER K WITH CEDILLAgSMALL LETTER K WITH CEDILLAuRA
gCAPITAL LETTER L WITH ACUTEgSMALL LETTER L WITH ACUTEgCAPITAL LETTER L WITH CEDILLA
gSMALL LETTER L WITH CEDILLAgCAPITAL LETTER L WITH CARONgSMALL LETTER L WITH CARON
gCAPITAL LETTER L WITH MIDDLE DOTgSMALL LETTER L WITH MIDDLE DOTgCAPITAL LETTER L WITH STROKE
gSMALL LETTER L WITH STROKEgCAPITAL LETTER N WITH ACUTEgSMALL LETTER N WITH ACUTE
gCAPITAL LETTER N WITH CEDILLAgSMALL LETTER N WITH CEDILLAgCAPITAL LETTER N WITH CARON
gSMALL LETTER N WITH CARONvPRECEDED BY APOSTROPHEgCAPITAL LETTER ENGgSMALL LETTER ENG
gCAPITAL LETTER O WITH MACRONgSMALL LETTER O WITH MACRONgCAPITAL LETTER O WITH BREVE
gSMALL LETTER O WITH BREVEgCAPITAL LETTER O WITH DOUBLE ACUTEgSMALL LETTER O WITH DOUBLE ACUTE
gCAPITAL LIGATURE OEgSMALL LIGATURE OEgCAPITAL LETTER R WITH ACUTEgSMALL LETTER R WITH ACUTE
gCAPITAL LETTER R WITH CEDILLAgSMALL LETTER R WITH CEDILLAgCAPITAL LETTER R WITH CARON
gSMALL LETTER R WITH CARONgCAPITAL LETTER S WITH ACUTEgSMALL LETTER S WITH ACUTE
gCAPITAL LETTER S WITH CIRCUMFLEXgSMALL LETTER S WITH CIRCUMFLEXgCAPITAL LETTER S WITH CEDILLA
gSMALL LETTER S WITH CEDILLAgCAPITAL LETTER S WITH CARONgSMALL LETTER S WITH CARON
gCAPITAL LETTER T WITH CEDILLAgSMALL LETTER T WITH CEDILLAgCAPITAL LETTER T WITH CARON
gSMALL LETTER T WITH CARONgCAPITAL LETTER T WITH STROKEgSMALL LETTER T WITH STROKE
gCAPITAL LETTER U WITH TILDEgSMALL LETTER U WITH TILDEgCAPITAL LETTER U WITH MACRON
gSMALL LETTER U WITH MACRONgCAPITAL LETTER U WITH BREVEgSMALL LETTER U WITH BREVE
gCAPITAL LETTER U WITH RING ABOVEgSMALL LETTER U WITH RING ABOVE
gCAPITAL LETTER U WITH DOUBLE ACUTEgSMALL LETTER U WITH DOUBLE ACUTEgCAPITAL LETTER U WITH OGONEK
gSMALL LETTER U WITH OGONEKgCAPITAL LETTER W WITH CIRCUMFLEXgSMALL LETTER W WITH CIRCUMFLEX
gCAPITAL LETTER Y WITH CIRCUMFLEXgSMALL LETTER Y WITH CIRCUMFLEXgCAPITAL LETTER Y WITH DIAERESIS
vZ WITH ACUTEgSMALL LETTER Z WITH ACUTEgCAPITAL LETTER Z WITH DOT ABOVE
gSMALL LETTER Z WITH DOT ABOVEgCAPITAL LETTER Z WITH CARONgSMALL LETTER Z WITH CARONtLONG S
tB WITH STROKEgCAPITAL LETTER B WITH HOOKzdTOPBARgSMALL LETTER B WITH TOPBAR
gCAPITAL LETTER TONE SIXgSMALL LETTER TONE SIXgCAPITAL LETTER OPEN OvC WITH HOOK
gSMALL LETTER C WITH HOOKgCAPITAL LETTER AFRICAN DvD WITH HOOKzdTOPBARgSMALL LETTER D WITH TOPBAR
tTURNED DELTAgCAPITAL LETTER REVERSED EvSCHWAvOPEN EvF WITH HOOKgSMALL LETTER F WITH HOOK
gCAPITAL LETTER G WITH HOOKwAMMAgSMALL LETTER HVgCAPITAL LETTER IOTAw WITH STROKEvK WITH HOOK
gSMALL LETTER K WITH HOOKtL WITH BARuAMBDA WITH STROKEgCAPITAL LETTER TURNED MvN WITH LEFT HOOK
gSMALL LETTER N WITH LONG RIGHT LEGgCAPITAL LETTER O WITH MIDDLE TILDEzdHORN
gSMALL LETTER O WITH HORNgCAPITAL LETTER OIgSMALL LETTER OIgCAPITAL LETTER P WITH HOOK
gSMALL LETTER P WITH HOOKgLETTER YRgCAPITAL LETTER TONE TWOgSMALL LETTER TONE TWO
gCAPITAL LETTER ESHgLETTER REVERSED ESH LOOPgSMALL LETTER T WITH PALATAL HOOK
gCAPITAL LETTER T WITH HOOKgSMALL LETTER T WITH HOOKgCAPITAL LETTER T WITH RETROFLEX HOOK
vU WITH HORNgSMALL LETTER U WITH HORNgCAPITAL LETTER UPSILONvV WITH HOOKvY WITH HOOK
gSMALL LETTER Y WITH HOOKgCAPITAL LETTER Z WITH STROKEgSMALL LETTER Z WITH STROKE
gCAPITAL LETTER EZHy REVERSEDgSMALL LETTER EZH REVERSEDxWITH TAILgLETTER TWO WITH STROKE
gCAPITAL LETTER TONE FIVEgSMALL LETTER TONE FIVEgLETTER INVERTED GLOTTAL STOP WITH STROKEnWYNN
nDENTAL CLICKnLATERAL CLICKnALVEOLAR CLICKnRETROFLEX CLICKgCAPITAL LETTER DZ WITH CARON
w WITH SMALL LETTER Z WITH CARONgSMALL LETTER DZ WITH CARONgCAPITAL LETTER LJw WITH SMALL LETTER J
gSMALL LETTER LJgCAPITAL LETTER NJw WITH SMALL LETTER JgSMALL LETTER NJ
gCAPITAL LETTER A WITH CARONgSMALL LETTER A WITH CARONgCAPITAL LETTER I WITH CARON
gSMALL LETTER I WITH CARONgCAPITAL LETTER O WITH CARONgSMALL LETTER O WITH CARON
gCAPITAL LETTER U WITH CARONgSMALL LETTER U WITH CARONgCAPITAL LETTER U WITH DIAERESIS AND MACRON
gSMALL LETTER U WITH DIAERESIS AND MACRONgCAPITAL LETTER U WITH DIAERESIS AND ACUTE
gSMALL LETTER U WITH DIAERESIS AND ACUTEgCAPITAL LETTER U WITH DIAERESIS AND CARON
gSMALL LETTER U WITH DIAERESIS AND CARONgCAPITAL LETTER U WITH DIAERESIS AND GRAVE
gSMALL LETTER U WITH DIAERESIS AND GRAVEtTURNED EgCAPITAL LETTER A WITH DIAERESIS AND MACRON
gSMALL LETTER A WITH DIAERESIS AND MACRONgCAPITAL LETTER A WITH DOT ABOVE AND MACRON
gSMALL LETTER A WITH DOT ABOVE AND MACRONgCAPITAL LETTER AE WITH MACRON
gSMALL LETTER AE WITH MACRONgCAPITAL LETTER G WITH STROKEgSMALL LETTER G WITH STROKE
gCAPITAL LETTER G WITH CARONgSMALL LETTER G WITH CARONgCAPITAL LETTER K WITH CARON
gSMALL LETTER K WITH CARONgCAPITAL LETTER O WITH OGONEKgSMALL LETTER O WITH OGONEK
gCAPITAL LETTER O WITH OGONEK AND MACRONgSMALL LETTER O WITH OGONEK AND MACRON
gCAPITAL LETTER EZH WITH CARONgSMALL LETTER EZH WITH CARONtJ WITH CARONgCAPITAL LETTER DZ
w WITH SMALL LETTER ZgSMALL LETTER DZgCAPITAL LETTER G WITH ACUTEgSMALL LETTER G WITH ACUTE
gCAPITAL LETTER HWAIRvWYNNvN WITH GRAVEgSMALL LETTER N WITH GRAVE
gCAPITAL LETTER A WITH RING ABOVE AND ACUTEgSMALL LETTER A WITH RING ABOVE AND ACUTE
gCAPITAL LETTER AE WITH ACUTEgSMALL LETTER AE WITH ACUTEgCAPITAL LETTER O WITH STROKE AND ACUTE
gSMALL LETTER O WITH STROKE AND ACUTEgCAPITAL LETTER A WITH DOUBLE GRAVE
gSMALL LETTER A WITH DOUBLE GRAVEgCAPITAL LETTER A WITH INVERTED BREVE
gSMALL LETTER A WITH INVERTED BREVEgCAPITAL LETTER E WITH DOUBLE GRAVE
gSMALL LETTER E WITH DOUBLE GRAVEgCAPITAL LETTER E WITH INVERTED BREVE
gSMALL LETTER E WITH INVERTED BREVEgCAPITAL LETTER I WITH DOUBLE GRAVE
gSMALL LETTER I WITH DOUBLE GRAVEgCAPITAL LETTER I WITH INVERTED BREVE
gSMALL LETTER I WITH INVERTED BREVEgCAPITAL LETTER O WITH DOUBLE GRAVE
gSMALL LETTER O WITH DOUBLE GRAVEgCAPITAL LETTER O WITH INVERTED BREVE
gSMALL LETTER O WITH INVERTED BREVEgCAPITAL LETTER R WITH DOUBLE GRAVE
gSMALL LETTER R WITH DOUBLE GRAVEgCAPITAL LETTER R WITH INVERTED BREVE
gSMALL LETTER R WITH INVERTED BREVEgCAPITAL LETTER U WITH DOUBLE GRAVE
gSMALL LETTER U WITH DOUBLE GRAVEgCAPITAL LETTER U WITH INVERTED BREVE
gSMALL LETTER U WITH INVERTED BREVEgCAPITAL LETTER S WITH COMMA BELOW
gSMALL LETTER S WITH COMMA BELOWgCAPITAL LETTER T WITH COMMA BELOWgSMALL LETTER T WITH COMMA BELOW
gCAPITAL LETTER YOGHgSMALL LETTER YOGHgCAPITAL LETTER H WITH CARONgSMALL LETTER H WITH CARON
gCAPITAL LETTER N WITH LONG RIGHT LEGgSMALL LETTER D WITH CURLgCAPITAL LETTER OUgSMALL LETTER OU
gCAPITAL LETTER Z WITH HOOKgSMALL LETTER Z WITH HOOKgCAPITAL LETTER A WITH DOT ABOVE
gSMALL LETTER A WITH DOT ABOVEgCAPITAL LETTER E WITH CEDILLAgSMALL LETTER E WITH CEDILLA
gCAPITAL LETTER O WITH DIAERESIS AND MACRONgSMALL LETTER O WITH DIAERESIS AND MACRON
gCAPITAL LETTER O WITH TILDE AND MACRONgSMALL LETTER O WITH TILDE AND MACRON
gCAPITAL LETTER O WITH DOT ABOVEgSMALL LETTER O WITH DOT ABOVE
gCAPITAL LETTER O WITH DOT ABOVE AND MACRONgSMALL LETTER O WITH DOT ABOVE AND MACRON
gCAPITAL LETTER Y WITH MACRONgSMALL LETTER Y WITH MACRONtL WITH CURLtN WITH CURLtT WITH CURL
tDOTLESS JuB DIGRAPHtQP DIGRAPHgCAPITAL LETTER A WITH STROKEvC WITH STROKE
gSMALL LETTER C WITH STROKEgCAPITAL LETTER L WITH BARvT WITH DIAGONAL STROKE
gSMALL LETTER S WITH SWASH TAILtZ WITH SWASH TAILgCAPITAL LETTER GLOTTAL STOP
gSMALL LETTER GLOTTAL STOPgCAPITAL LETTER B WITH STROKEvU BARvTURNED VvE WITH STROKE
gSMALL LETTER E WITH STROKEgCAPITAL LETTER J WITH STROKEgSMALL LETTER J WITH STROKE
gCAPITAL LETTER SMALL Q WITH HOOK TAILgSMALL LETTER Q WITH HOOK TAILgCAPITAL LETTER R WITH STROKE
gSMALL LETTER R WITH STROKEgCAPITAL LETTER Y WITH STROKEgSMALL LETTER Y WITH STROKEtTURNED AtALPHA
tTURNED ALPHAtB WITH HOOKtOPEN OtC WITH CURLtD WITH TAILzbHOOKtREVERSED EtSCHWAy WITH HOOKtOPEN E
tREVERSED OPEN Ezj WITH HOOKtCLOSED REVERSED OPEN EtDOTLESS J WITH STROKEtG WITH HOOKtSCRIPT G
gLETTER SMALL CAPITAL GgSMALL LETTER GAMMAtRAMS HORNtTURNED HtH WITH HOOKuENG WITH HOOK
tI WITH STROKEuOTAgLETTER SMALL CAPITAL IgSMALL LETTER L WITH MIDDLE TILDEzbBELTzbRETROFLEX HOOK
uEZHtTURNED Mzc WITH LONG LEGtM WITH HOOKtN WITH LEFT HOOKzbRETROFLEX HOOKgLETTER SMALL CAPITAL N
gSMALL LETTER BARRED OgLETTER SMALL CAPITAL OEgSMALL LETTER CLOSED OMEGAtPHItTURNED R
zc WITH LONG LEGziHOOKtR WITH LONG LEGzbTAILzbFISHHOOKuEVERSED R WITH FISHHOOK
gLETTER SMALL CAPITAL RzcINVERTED RgSMALL LETTER S WITH HOOKtESHtDOTLESS J WITH STROKE AND HOOK
tSQUAT REVERSED ESHtESH WITH CURLtTURNED Tu WITH RETROFLEX HOOKtU BARuPSILONtV WITH HOOKtTURNED V
zbWzbYgLETTER SMALL CAPITAL YgSMALL LETTER Z WITH RETROFLEX HOOKzbCURLtEZHw WITH CURL
gLETTER GLOTTAL STOPnPHARYNGEAL VOICED FRICATIVEnINVERTED GLOTTAL STOPnSTRETCHED CnBILABIAL CLICK
nSMALL CAPITAL BgSMALL LETTER CLOSED OPEN EgLETTER SMALL CAPITAL G WITH HOOKzcH
gSMALL LETTER J WITH CROSSED-TAILtTURNED KgLETTER SMALL CAPITAL LgSMALL LETTER Q WITH HOOK
gLETTER GLOTTAL STOP WITH STROKEnREVERSED GLOTTAL STOP WITH STROKEgSMALL LETTER DZ DIGRAPH
uEZH DIGRAPHuZ DIGRAPH WITH CURLtTS DIGRAPHuESH DIGRAPHuC DIGRAPH WITH CURLtFENG DIGRAPH
tLS DIGRAPHuZ DIGRAPHgLETTER BILABIAL PERCUSSIVEpDENTAL PERCUSSIVE
gSMALL LETTER TURNED H WITH FISHHOOKzq AND TAILaMODIFIER LETTER SMALL Hx WITH HOOKwJwRwTURNED R
zf WITH HOOKwCAPITAL INVERTED RwWwYqPRIMEqDOUBLE PRIMEqTURNED COMMAqAPOSTROPHEqREVERSED COMMA
rIGHT HALF RINGqLEFT HALF RINGqGLOTTAL STOPqREVERSED GLOTTAL STOPqLEFT ARROWHEADqRIGHT ARROWHEAD
qUP ARROWHEADqDOWN ARROWHEADqCIRCUMFLEX ACCENTaCARONaMODIFIER LETTER VERTICAL LINEqMACRON
qACUTE ACCENTqGRAVE ACCENTqLOW VERTICAL LINEuMACRONuGRAVE ACCENTuACUTE ACCENTqTRIANGULAR COLON
qHALF TRIANGULAR COLONqCENTRED RIGHT HALF RINGyLEFT HALF RINGqUP TACKqDOWN TACKqPLUS SIGN
qMINUS SIGNaBREVEaDOT ABOVEaRING ABOVEaOGONEKaSMALL TILDEaDOUBLE ACUTE ACCENT
aMODIFIER LETTER RHOTIC HOOKqCROSS ACCENTqSMALL GAMMAwLwSwXwREVERSED GLOTTAL STOP
qEXTRA-HIGH TONE BARqHIGH TONE BARqMID TONE BARqLOW TONE BARqEXTRA-LOW TONE BAR
qYIN DEPARTING TONE MARKrANG DEPARTING TONE MARKqVOICINGqUNASPIRATEDqDOUBLE APOSTROPHE
qLOW DOWN ARROWHEADuUP ARROWHEADuLEFT ARROWHEADuRIGHT ARROWHEADwNGqMIDDLE GRAVE ACCENT
xDOUBLE GRAVE ACCENTzfACUTE ACCENTqLOW TILDEqRAISED COLONqBEGIN HIGH TONEqEND HIGH TONE
qBEGIN LOW TONEqEND LOW TONEqSHELFqOPEN SHELFqLOW LEFT ARROWaCOMBINING GRAVE ACCENTkACUTE ACCENT
kCIRCUMFLEX ACCENTkTILDEkMACRONkOVERLINEkBREVEkDOT ABOVElIAERESISkHOOK ABOVEkRING ABOVE
kDOUBLE ACUTE ACCENTkCARONkVERTICAL LINE ABOVEkDOUBLE VERTICAL LINE ABOVErGRAVE ACCENTkCANDRABINDU
kINVERTED BREVEkTURNED COMMA ABOVEkCOMMA ABOVEkREVERSED COMMA ABOVEkCOMMA ABOVE RIGHT
kGRAVE ACCENT BELOWkACUTE ACCENT BELOWkLEFT TACK BELOWkRIGHT TACK BELOWkLEFT ANGLE ABOVEkHORN
kLEFT HALF RING BELOWkUP TACK BELOWkDOWN TACK BELOWkPLUS SIGN BELOWkMINUS SIGN BELOW
kPALATALIZED HOOK BELOWkRETROFLEX HOOK BELOWkDOT BELOWlIAERESIS BELOWkRING BELOWkCOMMA BELOW
lEDILLAkOGONEKkVERTICAL LINE BELOWkBRIDGE BELOWkINVERTED DOUBLE ARCH BELOWkCARON BELOW
lIRCUMFLEX ACCENT BELOWkBREVE BELOWkINVERTED BREVE BELOWkTILDE BELOWkMACRON BELOWkLOW LINE
kDOUBLE LOW LINEkTILDE OVERLAYkSHORT STROKE OVERLAYkLONG STROKE OVERLAYkSHORT SOLIDUS OVERLAY
kLONG SOLIDUS OVERLAYkRIGHT HALF RING BELOWkINVERTED BRIDGE BELOWkSQUARE BELOWlEAGULL BELOW
kX ABOVEkVERTICAL TILDEkDOUBLE OVERLINEkGRAVE TONE MARKkACUTE TONE MARKkGREEK PERISPOMENIqKORONIS
qDIALYTIKA TONOSqYPOGEGRAMMENIkBRIDGE ABOVEkEQUALS SIGN BELOWkDOUBLE VERTICAL LINE BELOW
kLEFT ANGLE BELOWkNOT TILDE ABOVEkHOMOTHETIC ABOVEkALMOST EQUAL TO ABOVEkLEFT RIGHT ARROW BELOW
kUPWARDS ARROW BELOWkGRAPHEME JOINERkRIGHT ARROWHEAD ABOVEkLEFT HALF RING ABOVEkFERMATAkX BELOW
kLEFT ARROWHEAD BELOWkRIGHT ARROWHEAD BELOWzbAND UP ARROWHEAD BELOWqHALF RING ABOVE
kDOT ABOVE RIGHTkASTERISK BELOWkDOUBLE RING BELOWkZIGZAG ABOVEkDOUBLE BREVE BELOWvErMACRONx BELOW
rTILDErINVERTED BREVErRIGHTWARDS ARROW BELOWkLATIN SMALL LETTER AzeEzeIzeOzeUzeCzeDzeHzeMzeRzeTzeV
zeXaGREEK CAPITAL LETTER HETAgSMALL LETTER HETAgCAPITAL LETTER ARCHAIC SAMPI
gSMALL LETTER ARCHAIC SAMPIgNUMERAL SIGNgLOWER NUMERAL SIGNgCAPITAL LETTER PAMPHYLIAN DIGAMMA
gSMALL LETTER PAMPHYLIAN DIGAMMA<37A>gYPOGEGRAMMENIgSMALL REVERSED LUNATE SIGMA SYMBOL
mDOTTED LUNATE SIGMA SYMBOLmREVERSED DOTTED LUNATE SIGMA SYMBOLgQUESTION MARKgCAPITAL LETTER YOT
<384>gTONOSgDIALYTIKA TONOSgCAPITAL LETTER ALPHA WITH TONOSgANO TELEIA
gCAPITAL LETTER EPSILON WITH TONOSwTA WITH TONOSvIOTA WITH TONOS<38C>vOMICRON WITH TONOS
<38E>vUPSILON WITH TONOSvOMEGA WITH TONOSgSMALL LETTER IOTA WITH DIALYTIKA AND TONOS
gCAPITAL LETTER ALPHAvBETAvGAMMAvDELTAvEPSILONvZETAvETAvTHETAvIOTAvKAPPAvLAMDAvMUvNUvXIvOMICRONvPI
vRHO<3A3>vSIGMAvTAUvUPSILONvPHIvCHIvPSIvOMEGAvIOTA WITH DIALYTIKAvUPSILON WITH DIALYTIKA
gSMALL LETTER ALPHA WITH TONOStEPSILON WITH TONOSuTA WITH TONOStIOTA WITH TONOS
tUPSILON WITH DIALYTIKA AND TONOStALPHAtBETAtGAMMAtDELTAtEPSILONtZETAtETAtTHETAtIOTAtKAPPAtLAMDA
tMUtNUtXItOMICRONtPItRHOtFINAL SIGMAtSIGMAtTAUtUPSILONtPHItCHItPSItOMEGAtIOTA WITH DIALYTIKA
tUPSILON WITH DIALYTIKAtOMICRON WITH TONOStUPSILON WITH TONOStOMEGA WITH TONOSgCAPITAL KAI SYMBOL
gBETA SYMBOLgTHETA SYMBOLgUPSILON WITH HOOK SYMBOLtACUTE AND HOOK SYMBOLtDIAERESIS AND HOOK SYMBOL
gPHI SYMBOLhI SYMBOLgKAI SYMBOLgLETTER ARCHAIC KOPPAgSMALL LETTER ARCHAIC KOPPAgLETTER STIGMA
gSMALL LETTER STIGMAgLETTER DIGAMMAgSMALL LETTER DIGAMMAgLETTER KOPPAgSMALL LETTER KOPPA
gLETTER SAMPIgSMALL LETTER SAMPIaCOPTIC CAPITAL LETTER SHEIhSMALL LETTER SHEIhCAPITAL LETTER FEI
hSMALL LETTER FEIhCAPITAL LETTER KHEIhSMALL LETTER KHEIhCAPITAL LETTER HORIhSMALL LETTER HORI
hCAPITAL LETTER GANGIAhSMALL LETTER GANGIAhCAPITAL LETTER SHIMAhSMALL LETTER SHIMA
hCAPITAL LETTER DEIhSMALL LETTER DEIaGREEK KAPPA SYMBOLgRHO SYMBOLgLUNATE SIGMA SYMBOLhETTER YOT
gCAPITAL THETA SYMBOLgLUNATE EPSILON SYMBOLgREVERSED LUNATE EPSILON SYMBOLgCAPITAL LETTER SHO
gSMALL LETTER SHOgCAPITAL LUNATE SIGMA SYMBOLpETTER SANgSMALL LETTER SANgRHO WITH STROKE SYMBOL
gCAPITAL REVERSED LUNATE SIGMA SYMBOLoDOTTED LUNATE SIGMA SYMBOL
oREVERSED DOTTED LUNATE SIGMA SYMBOLaCYRILLIC CAPITAL LETTER IE WITH GRAVEzOyDJEyGJEyUKRAINIAN IE
yDZEyBYELORUSSIAN-UKRAINIAN IyYIyJEyLJEyNJEyTSHEyKJEyI WITH GRAVEySHORT UyDZHEyAyBEyVEyGHEyDEyIE
yZHEzEyIySHORT IyKAyELzMzNyOyPEyERzSyTEyUyEFyHAyTSEyCHEySHAzbCHAyHARD SIGNyYERUySOFT SIGNyEyYUzA
jSMALL LETTER AwBEwVEwGHEwDEwIEwZHExEwIwSHORT IwKAwELxMxNwOwPEwERxSwTEwUwEFwHAwTSEwCHEwSHAyCHA
wHARD SIGNwYERUwSOFT SIGNwEwYUxAwIE WITH GRAVExOwDJEwGJEwUKRAINIAN IEwDZEwBYELORUSSIAN-UKRAINIAN I
wYIwJEwLJEwNJEwTSHEwKJEwI WITH GRAVEwSHORT UwDZHEjCAPITAL LETTER OMEGAjSMALL LETTER OMEGA
jCAPITAL LETTER YATjSMALL LETTER YATjCAPITAL LETTER IOTIFIED EjSMALL LETTER IOTIFIED E
jCAPITAL LETTER LITTLE YUSjSMALL LETTER LITTLE YUSjCAPITAL LETTER IOTIFIED LITTLE YUS
jSMALL LETTER IOTIFIED LITTLE YUSjCAPITAL LETTER BIG YUSjSMALL LETTER BIG YUS
jCAPITAL LETTER IOTIFIED BIG YUSjSMALL LETTER IOTIFIED BIG YUSjCAPITAL LETTER KSIjSMALL LETTER KSI
jCAPITAL LETTER PSIjSMALL LETTER PSIjCAPITAL LETTER FITAjSMALL LETTER FITAjCAPITAL LETTER IZHITSA
jSMALL LETTER IZHITSAjCAPITAL LETTER IZHITSA WITH DOUBLE GRAVE ACCENT
jSMALL LETTER IZHITSA WITH DOUBLE GRAVE ACCENTjCAPITAL LETTER UKjSMALL LETTER UK
jCAPITAL LETTER ROUND OMEGAjSMALL LETTER ROUND OMEGAjCAPITAL LETTER OMEGA WITH TITLO
jSMALL LETTER OMEGA WITH TITLOjCAPITAL LETTER OTjSMALL LETTER OTjCAPITAL LETTER KOPPA
jSMALL LETTER KOPPAjTHOUSANDS SIGNbOMBINING CYRILLIC TITLOtPALATALIZATIONtDASIA PNEUMATA
tPSILI PNEUMATAuOKRYTIEtHUNDRED THOUSANDS SIGNtMILLIONS SIGN
bYRILLIC CAPITAL LETTER SHORT I WITH TAILjSMALL LETTER SHORT I WITH TAIL
jCAPITAL LETTER SEMISOFT SIGNjSMALL LETTER SEMISOFT SIGNjCAPITAL LETTER ER WITH TICK
jSMALL LETTER ER WITH TICKjCAPITAL LETTER GHE WITH UPTURNjSMALL LETTER GHE WITH UPTURN
jCAPITAL LETTER GHE WITH STROKEjSMALL LETTER GHE WITH STROKEjCAPITAL LETTER GHE WITH MIDDLE HOOK
jSMALL LETTER GHE WITH MIDDLE HOOKjCAPITAL LETTER ZHE WITH DESCENDER
jSMALL LETTER ZHE WITH DESCENDERjCAPITAL LETTER ZE WITH DESCENDERjSMALL LETTER ZE WITH DESCENDER
jCAPITAL LETTER KA WITH DESCENDERjSMALL LETTER KA WITH DESCENDER
jCAPITAL LETTER KA WITH VERTICAL STROKEjSMALL LETTER KA WITH VERTICAL STROKE
jCAPITAL LETTER KA WITH STROKEjSMALL LETTER KA WITH STROKEjCAPITAL LETTER BASHKIR KA
jSMALL LETTER BASHKIR KAjCAPITAL LETTER EN WITH DESCENDERjSMALL LETTER EN WITH DESCENDER
jCAPITAL LIGATURE EN GHEjSMALL LIGATURE EN GHEjCAPITAL LETTER PE WITH MIDDLE HOOK
jSMALL LETTER PE WITH MIDDLE HOOKjCAPITAL LETTER ABKHASIAN HAjSMALL LETTER ABKHASIAN HA
jCAPITAL LETTER ES WITH DESCENDERjSMALL LETTER ES WITH DESCENDERjCAPITAL LETTER TE WITH DESCENDER
jSMALL LETTER TE WITH DESCENDERjCAPITAL LETTER STRAIGHT UjSMALL LETTER STRAIGHT U
jCAPITAL LETTER STRAIGHT U WITH STROKEjSMALL LETTER STRAIGHT U WITH STROKE
jCAPITAL LETTER HA WITH DESCENDERjSMALL LETTER HA WITH DESCENDERjCAPITAL LIGATURE TE TSE
jSMALL LIGATURE TE TSEjCAPITAL LETTER CHE WITH DESCENDERjSMALL LETTER CHE WITH DESCENDER
jCAPITAL LETTER CHE WITH VERTICAL STROKEjSMALL LETTER CHE WITH VERTICAL STROKEjCAPITAL LETTER SHHA
jSMALL LETTER SHHAjCAPITAL LETTER ABKHASIAN CHEjSMALL LETTER ABKHASIAN CHE
jCAPITAL LETTER ABKHASIAN CHE WITH DESCENDERjSMALL LETTER ABKHASIAN CHE WITH DESCENDER
jLETTER PALOCHKAjCAPITAL LETTER ZHE WITH BREVEjSMALL LETTER ZHE WITH BREVE
jCAPITAL LETTER KA WITH HOOKjSMALL LETTER KA WITH HOOKjCAPITAL LETTER EL WITH TAIL
jSMALL LETTER EL WITH TAILjCAPITAL LETTER EN WITH HOOKjSMALL LETTER EN WITH HOOK
jCAPITAL LETTER EN WITH TAILjSMALL LETTER EN WITH TAILjCAPITAL LETTER KHAKASSIAN CHE
jSMALL LETTER KHAKASSIAN CHEjCAPITAL LETTER EM WITH TAILjSMALL LETTER EM WITH TAILwPALOCHKA
jCAPITAL LETTER A WITH BREVEjSMALL LETTER A WITH BREVEjCAPITAL LETTER A WITH DIAERESIS
jSMALL LETTER A WITH DIAERESISjCAPITAL LIGATURE A IEjSMALL LIGATURE A IE
jCAPITAL LETTER IE WITH BREVEjSMALL LETTER IE WITH BREVEjCAPITAL LETTER SCHWAjSMALL LETTER SCHWA
jCAPITAL LETTER SCHWA WITH DIAERESISjSMALL LETTER SCHWA WITH DIAERESIS
jCAPITAL LETTER ZHE WITH DIAERESISjSMALL LETTER ZHE WITH DIAERESIS
jCAPITAL LETTER ZE WITH DIAERESISjSMALL LETTER ZE WITH DIAERESISjCAPITAL LETTER ABKHASIAN DZE
jSMALL LETTER ABKHASIAN DZEjCAPITAL LETTER I WITH MACRONjSMALL LETTER I WITH MACRON
jCAPITAL LETTER I WITH DIAERESISjSMALL LETTER I WITH DIAERESISjCAPITAL LETTER O WITH DIAERESIS
jSMALL LETTER O WITH DIAERESISjCAPITAL LETTER BARRED OjSMALL LETTER BARRED O
jCAPITAL LETTER BARRED O WITH DIAERESISjSMALL LETTER BARRED O WITH DIAERESIS
jCAPITAL LETTER E WITH DIAERESISjSMALL LETTER E WITH DIAERESISjCAPITAL LETTER U WITH MACRON
jSMALL LETTER U WITH MACRONjCAPITAL LETTER U WITH DIAERESISjSMALL LETTER U WITH DIAERESIS
jCAPITAL LETTER U WITH DOUBLE ACUTEjSMALL LETTER U WITH DOUBLE ACUTE
jCAPITAL LETTER CHE WITH DIAERESISjSMALL LETTER CHE WITH DIAERESIS
jCAPITAL LETTER GHE WITH DESCENDERjSMALL LETTER GHE WITH DESCENDER
jCAPITAL LETTER YERU WITH DIAERESISjSMALL LETTER YERU WITH DIAERESIS
jCAPITAL LETTER GHE WITH STROKE AND HOOKjSMALL LETTER GHE WITH STROKE AND HOOK
jCAPITAL LETTER HA WITH HOOKjSMALL LETTER HA WITH HOOKjCAPITAL LETTER HA WITH STROKE
jSMALL LETTER HA WITH STROKEjCAPITAL LETTER KOMI DEjSMALL LETTER KOMI DEjCAPITAL LETTER KOMI DJE
jSMALL LETTER KOMI DJEjCAPITAL LETTER KOMI ZJEjSMALL LETTER KOMI ZJEjCAPITAL LETTER KOMI DZJE
jSMALL LETTER KOMI DZJEjCAPITAL LETTER KOMI LJEjSMALL LETTER KOMI LJEjCAPITAL LETTER KOMI NJE
jSMALL LETTER KOMI NJEjCAPITAL LETTER KOMI SJEjSMALL LETTER KOMI SJEjCAPITAL LETTER KOMI TJE
jSMALL LETTER KOMI TJEjCAPITAL LETTER REVERSED ZEjSMALL LETTER REVERSED ZE
jCAPITAL LETTER EL WITH HOOKjSMALL LETTER EL WITH HOOKjCAPITAL LETTER LHAjSMALL LETTER LHA
jCAPITAL LETTER RHAjSMALL LETTER RHAjCAPITAL LETTER YAEjSMALL LETTER YAEjCAPITAL LETTER QA
jSMALL LETTER QAjCAPITAL LETTER WEjSMALL LETTER WEjCAPITAL LETTER ALEUT KAjSMALL LETTER ALEUT KA
jCAPITAL LETTER EL WITH MIDDLE HOOKjSMALL LETTER EL WITH MIDDLE HOOK
jCAPITAL LETTER EN WITH MIDDLE HOOKjSMALL LETTER EN WITH MIDDLE HOOK
jCAPITAL LETTER PE WITH DESCENDERjSMALL LETTER PE WITH DESCENDER
jCAPITAL LETTER SHHA WITH DESCENDERjSMALL LETTER SHHA WITH DESCENDER
jCAPITAL LETTER EN WITH LEFT HOOKjSMALL LETTER EN WITH LEFT HOOKjCAPITAL LETTER DZZHE
jSMALL LETTER DZZHEjCAPITAL LETTER DCHEjSMALL LETTER DCHEjCAPITAL LETTER EL WITH DESCENDER
jSMALL LETTER EL WITH DESCENDER<531>aARMENIAN CAPITAL LETTER AYByBENyGIMyDAyECHyZAyEHzTyTOyZHEyINI
yLIWNyXEHyCAyKENyHOyJAyGHADyCHEHyMENyYIyNOWySHAyVOyCHAyPEHyJHEHyRAySEHyVEWyTIWNyREHyCOyYIWNyPIWR
yKEHyOHyFEH<559>jMODIFIER LETTER LEFT HALF RINGjAPOSTROPHEjEMPHASIS MARKkXCLAMATION MARKjCOMMA
jQUESTION MARKjABBREVIATION MARKjSMALL LETTER TURNED AYBwAYBwBENwGIMwDAwECHwZAwEHxTwTOwZHEwINI
wLIWNwXEHwCAwKENwHOwJAwGHADwCHEHwMENwYIwNOWwSHAwVOwCHAwPEHwJHEHwRAwSEHwVEWwTIWNwREHwCOwYIWNwPIWR
wKEHwOHwFEHqIGATURE ECH YIWNqETTER YI WITH STROKEjFULL STOPjHYPHEN
<58D>aRIGHT-FACING ARMENIAN ETERNITY SIGNaLEFT-FACING ARMENIAN ETERNITY SIGNaARMENIAN DRAM SIGN
<591>aHEBREW ACCENT ETNAHTAoSEGOLpHALSHELEToZAQEF QATANuGADOLoTIPEHAoREVIAoZARQAoPASHTAoYETIV
oTEVIRoGERESHu MUQDAMrSHAYIMoQARNEY PARAoTELISHA GEDOLAoPAZERoATNAH HAFUKHoMUNAHpAHAPAKHpERKHA
u KEFULAoDARGAoQADMAoTELISHA QETANAoYERAH BEN YOMOoOLEoILUYoDEHIoZINORhMARK MASORA CIRCLE
hPOINT SHEVAnHATAF SEGOLtPATAHtQAMATSoIRIQnTSEREnSEGOLnPATAHnQAMATSnHOLAMs HASER FOR VAVnQUBUTS
nDAGESH OR MAPIQnMETEGiUNCTUATION MAQAFiOINT RAFEiUNCTUATION PASEQiOINT SHIN DOToIN DOT
iUNCTUATION SOF PASUQhMARK UPPER DOTmLOWER DOThPUNCTUATION NUN HAFUKHAiOINT QAMATS QATAN
<5D0>hLETTER ALEFoBEToGIMELoDALEToHEoVAVoZAYINoHEToTEToYODoFINAL KAFoKAFoLAMEDoFINAL MEMoMEM
oFINAL NUNoNUNoSAMEKHoAYINoFINAL PEoPEoFINAL TSADIoTSADIoQOFoRESHoSHINoTAV<5EF>hYOD TRIANGLE
hLIGATURE YIDDISH DOUBLE VAVyVAV YODyDOUBLE YODhPUNCTUATION GERESHwSHAYIM<600>aARABIC NUMBER SIGN
hSIGN SANAHhFOOTNOTE MARKERhSIGN SAFHAoMVAThNUMBER MARK ABOVEg-INDIC CUBE ROOTnFOURTH ROOTg RAY
g-INDIC PER MILLE SIGNrTEN THOUSAND SIGNbFGHANI SIGNbRABIC COMMAhDATE SEPARATORhPOETIC VERSE SIGN
hSIGN MISRAmSALLALLAHOU ALAYHE WASSALLAMmALAYHE ASSALLAMmRAHMATULLAH ALAYHEoDI ALLAHOU ANHU
mTAKHALLUSiMALL HIGH TAHsLIGATURE ALEF WITH LAM WITH YEHsZAINnFATHAnDAMMAnKASRAiEMICOLON
hLETTER MARKhEND OF TEXT MARKhTRIPLE DOT PUNCTUATION MARKhQUESTION MARKhLETTER KASHMIRI YEHoHAMZA
oALEF WITH MADDA ABOVEyHAMZA ABOVEoWAW WITH HAMZA ABOVEoALEF WITH HAMZA BELOWoYEH WITH HAMZA ABOVE
oALEFoBEHoTEH MARBUTAqHpHEHoJEEMoHAHoKHAHoDALoTHALoREHoZAINoSEENpHEENpADoDADoTAHoZAHoAINoGHAIN
oKEHEH WITH TWO DOTS ABOVEzbHREE DOTS BELOWoFARSI YEH WITH INVERTED VzeTWO DOTS ABOVE
zfHREE DOTS ABOVEhTATWEELhLETTER FEHoQAFoKAFoLAMoMEEMoNOONoHEHoWAWoALEF MAKSURAoYEHhFATHATAN
hDAMMATANhKASRATANhFATHAhDAMMAhKASRAhSHADDAiUKUNhMADDAH ABOVEhHAMZA ABOVEnBELOWhSUBSCRIPT ALEF
hINVERTED DAMMAhMARK NOON GHUNNAhZWARAKAYhVOWEL SIGN SMALL V ABOVEsINVERTED SMALL V ABOVE
sDOT BELOWhREVERSED DAMMAhFATHA WITH TWO DOTShWAVY HAMZA BELOWg-INDIC DIGIT ZEROtONEtTWOuHREEtFOUR
uIVEtSIXuEVENtEIGHTtNINEg PERCENT SIGNhDECIMAL SEPARATORhTHOUSANDS SEPARATORhFIVE POINTED STAR
hLETTER DOTLESS BEHwQAFoSUPERSCRIPT ALEFoALEF WASLAuITH WAVY HAMZA ABOVEzkBELOWoHIGH HAMZAy ALEF
zWAWoU WITH HAMZA ABOVEoHIGH HAMZA YEHoTTEHsEHoBEEHoTEH WITH RINGxTHREE DOTS ABOVE DOWNWARDSoPEH
oTEHEHoBEHEHoHAH WITH HAMZA ABOVExTWO DOTS VERTICAL ABOVEoNYEHoDYEHoHAH WITH THREE DOTS ABOVE
oTCHEHtEHoDDALpAL WITH RINGxDOT BELOWzh AND SMALL TAHqHALpDAHALpUL
pAL WITH THREE DOTS ABOVE DOWNWARDSxFOUR DOTS ABOVEoRREHpEH WITH SMALL VxRINGxDOT BELOW
xSMALL V BELOWxDOT BELOW AND DOT ABOVExTWO DOTS ABOVEoJEHoREH WITH FOUR DOTS ABOVE
oSEEN WITH DOT BELOW AND DOT ABOVEyTHREE DOTS BELOWzp AND THREE DOTS ABOVEpAD WITH TWO DOTS BELOW
yHREE DOTS ABOVEoTAH WITH THREE DOTS ABOVEoAIN WITH THREE DOTS ABOVEoDOTLESS FEH
oFEH WITH DOT MOVED BELOWzcBELOWoVEHoFEH WITH THREE DOTS BELOWoPEHEHoQAF WITH DOT ABOVE
xTHREE DOTS ABOVEoKEHEHoSWASH KAFoKAF WITH RINGxDOT ABOVEoNGoKAF WITH THREE DOTS BELOWoGAF
r WITH RINGoNGOEHoGAF WITH TWO DOTS BELOWpUEHpAF WITH THREE DOTS ABOVEoLAM WITH SMALL VxDOT ABOVE
xTHREE DOTS ABOVEzjBELOWoNOON WITH DOT BELOWtGHUNNAoRNOONoNOON WITH RINGyTHREE DOTS ABOVE
oHEH DOACHASHMEEoTCHEH WITH DOT ABOVEoHEH WITH YEH ABOVEsGOALw WITH HAMZA ABOVEoTEH MARBUTA GOAL
oWAW WITH RINGoKIRGHIZ OEoOEoUoYUoKIRGHIZ YUoWAW WITH TWO DOTS ABOVEoVEoFARSI YEHoYEH WITH TAIL
xSMALL VoWAW WITH DOT ABOVEoEoYEH WITH THREE DOTS BELOWsBARREEy WITH HAMZA ABOVEhFULL STOP
hLETTER AEhSMALL HIGH LIGATURE SAD WITH LAM WITH ALEF MAKSURAzcQAF WITH LAM WITH ALEF MAKSURA
sMEEM INITIAL FORMsLAM ALEFsJEEMsTHREE DOTSsSEENhEND OF AYAHhSTART OF RUB EL HIZB
iMALL HIGH ROUNDED ZEROsUPRIGHT RECTANGULAR ZEROsDOTLESS HEAD OF KHAHsMEEM ISOLATED FORMnLOW SEEN
nHIGH MADDAnWAWnYEHnHIGH YEHsNOONhPLACE OF SAJDAHhEMPTY CENTRE LOW STOPuHIGH STOP
hROUNDED HIGH STOP WITH FILLED CENTREhSMALL LOW MEEMhLETTER DAL WITH INVERTED V
oREH WITH INVERTED VaEXTENDED ARABIC-INDIC DIGIT ZEROzdONEzdTWOzeHREEzdFOURzeIVEzdSIXzeEVENzdEIGHT
zdNINEaARABIC LETTER SHEEN WITH DOT BELOWoDAD WITH DOT BELOWoGHAIN WITH DOT BELOW
hSIGN SINDHI AMPERSANDtPOSTPOSITION MENhLETTER HEH WITH INVERTED VaSYRIAC END OF PARAGRAPH
hSUPRALINEAR FULL STOPjBLINEAR FULL STOPjPRALINEAR COLONjBLINEAR COLONhHORIZONTAL COLON
hCOLON SKEWED LEFTuRIGHThSUPRALINEAR COLON SKEWED LEFTjBLINEAR COLON SKEWED RIGHThCONTRACTION
hHARKLEAN OBELUSqMETOBELUSqASTERISCUS<70F>hABBREVIATION MARKhLETTER ALAPHoSUPERSCRIPT ALAPHoBETH
oGAMALt GARSHUNIoDALATHpOTLESS DALATH RISHoHEoWAWoZAINoHETHoTETHs GARSHUNIoYUDHs HEoKAPHoLAMADH
oMIMoNUNoSEMKATHoFINAL SEMKATHoEoPEoREVERSED PEoSADHEoQAPHoRISHoSHINoTAWoPERSIAN BHETHwGHAMAL
wDHALATHhPTHAHA ABOVEoBELOWoDOTTEDhZQAPHA ABOVEoBELOWoDOTTEDhRBASA ABOVEnBELOW
hDOTTED ZLAMA HORIZONTALuANGULARhHBASA ABOVEnBELOWm-ESASA DOTTEDhESASA ABOVEnBELOWhRWAHA
hFEMININE DOThQUSHSHAYAhRUKKAKHAhTWO VERTICAL DOTS ABOVEzBELOWiHREE DOTS ABOVEsBELOW
hOBLIQUE LINE ABOVEuBELOWhMUSIChBARREKH<74D>hLETTER SOGDIAN ZHAINwKHAPHwFE
aARABIC LETTER BEH WITH THREE DOTS HORIZONTALLY BELOWxDOT BELOW AND THREE DOTS ABOVE
xTHREE DOTS POINTING UPWARDS BELOWzzg AND TWO DOTS ABOVEyWO DOTS BELOW AND DOT ABOVE
xINVERTED SMALL V BELOWxSMALL VoHAH WITH TWO DOTS ABOVEyHREE DOTS POINTING UPWARDS BELOW
oDAL WITH TWO DOTS VERTICALLY BELOW AND SMALL TAHxINVERTED SMALL V BELOWoREH WITH STROKE
oSEEN WITH FOUR DOTS ABOVEoAIN WITH TWO DOTS ABOVEyHREE DOTS POINTING DOWNWARDS ABOVE
yWO DOTS VERTICALLY ABOVEoFEH WITH TWO DOTS BELOWyHREE DOTS POINTING UPWARDS BELOW
oKEHEH WITH DOT ABOVEzTHREE DOTS ABOVEzlPOINTING UPWARDS BELOWoMEEM WITH DOT ABOVEzdBELOW
oNOON WITH TWO DOTS BELOWySMALL TAHzfVoLAM WITH BARoREH WITH TWO DOTS VERTICALLY ABOVExHAMZA ABOVE
oSEEN WITH TWO DOTS VERTICALLY ABOVEoHAH WITH SMALL ARABIC LETTER TAH BELOWzwAND TWO DOTS
oSEEN WITH SMALL ARABIC LETTER TAH AND TWO DOTSoREH WITH SMALL ARABIC LETTER TAH AND TWO DOTS
oHAH WITH SMALL ARABIC LETTER TAH ABOVEoALEF WITH EXTENDED ARABIC-INDIC DIGIT TWO ABOVE
zzdHREE ABOVEoFARSI YEH WITH EXTENDED ARABIC-INDIC DIGIT TWO ABOVEzziHREE ABOVEzzhFOUR BELOW
oWAW WITH EXTENDED ARABIC-INDIC DIGIT TWO ABOVEzzcHREE ABOVE
oYEH BARREE WITH EXTENDED ARABIC-INDIC DIGIT TWO ABOVEzzjHREE ABOVE
oHAH WITH EXTENDED ARABIC-INDIC DIGIT FOUR BELOWoSEEN WITH EXTENDED ARABIC-INDIC DIGIT FOUR ABOVE
yINVERTED VoKAF WITH TWO DOTS ABOVEaTHAANA LETTER HAAoSHAVIYANIoNOONUoRAAoBAAoLHAVIYANIoKAAFU
oALIFUoVAAVUoMEEMUoFAAFUoDHAALUoTHAAoLAAMUoGAAFUpNAVIYANIoSEENUoDAVIYANIoZAVIYANIoTAVIYANIoYAA
oPAVIYANIoJAVIYANIoCHAVIYANIoTTAAoHHAAoKHAAoTHAALUoZAAoSHEENUpAADHUoDAADHUoTOoZOoAINUoGHAINUoQAAFU
oWAAVUhABAFILIiABAAFILIhIBIFILIhEEBEEFILIhUBUFILIhOOBOOFILIhEBEFILIiYBEYFILIhOBOFILIiABOAFILI
hSUKUNhLETTER NAA<7C0>aNKO DIGIT ZEROkONEkTWOlHREEkFOURlIVEkSIXlEVENkEIGHTkNINEeLETTER AlEElIlElU
lOOlOlDAGBASINNAlNlBAlPAlTAlJAlCHAlDAlRAmRAlSAlGBAlFAlKAlLAlNA WOLOSOlMAlNYAmAlHAlWAlYAlNYA WOLOSO
lJONA JAqCHAqRAeCOMBINING SHORT HIGH TONEuLOW TONEuRISING TONEoLONG DESCENDING TONEtHIGH TONE
tLOW TONEtRISING TONEoNASALIZATION MARKoDOUBLE DOT ABOVEeHIGH TONE APOSTROPHEeLOW TONE APOSTROPHE
eSYMBOL OO DENNENlGBAKURUNENeCOMMAeEXCLAMATION MARKeLAJANYALAN<7FD>eDANTAYALANfOROME SIGN
eTAMAN SIGN"

end Name
end Text
end WorkflowKit
