/-
# Names of characters from U+2800 to U+2FFF

The names are written as `WorkflowKit.Text.Name` says.
-/

namespace WorkflowKit
namespace Text
namespace Name

/-- The names of the characters from U+2800 to U+2FFF. -/
def namesFrom2800 : String := "
<2800>aBRAILLE PATTERN BLANKqDOTS-1v2v12v3v13v23v123v4v14v24v124v34v134v234v1234v5v15v25v125v35
v135v235v1235v45v145v245v1245v345v1345v2345v12345v6v16v26v126v36v136v236v1236v46v146v246v1246v346
v1346v2346v12346v56v156v256v1256v356v1356v2356v12356v456v1456v2456v12456v3456v13456v23456v123456v7
v17v27v127v37v137v237v1237v47v147v247v1247v347v1347v2347v12347v57v157v257v1257v357v1357v2357v12357
v457v1457v2457v12457v3457v13457v23457v123457v67v167v267v1267v367v1367v2367v12367v467v1467v2467
v12467v3467v13467v23467v123467v567v1567v2567v12567v3567v13567v23567v123567v4567v14567v24567v124567
v34567v134567v234567v1234567v8v18v28v128v38v138v238v1238v48v148v248v1248v348v1348v2348v12348v58
v158v258v1258v358v1358v2358v12358v458v1458v2458v12458v3458v13458v23458v123458v68v168v268v1268v368
v1368v2368v12368v468v1468v2468v12468v3468v13468v23468v123468v568v1568v2568v12568v3568v13568v23568
v123568v4568v14568v24568v124568v34568v134568v234568v1234568v78v178v278v1278v378v1378v2378v12378
v478v1478v2478v12478v3478v13478v23478v123478v578v1578v2578v12578v3578v13578v23578v123578v4578
v14578v24578v124578v34578v134578v234578v1234578v678v1678v2678v12678v3678v13678v23678v123678v4678
v14678v24678v124678v34678v134678v234678v1234678v5678v15678v25678v125678v35678v135678v235678
v1235678v45678v145678v245678v1245678v345678v1345678v2345678v12345678
aRIGHTWARDS TWO-HEADED ARROW WITH VERTICAL STROKEziDOUBLE VERTICAL STROKE
aLEFTWARDS DOUBLE ARROW WITH VERTICAL STROKEaRIGHTWARDS DOUBLE ARROW WITH VERTICAL STROKE
aLEFT RIGHT DOUBLE ARROW WITH VERTICAL STROKEaRIGHTWARDS TWO-HEADED ARROW FROM BAR
aLEFTWARDS DOUBLE ARROW FROM BARaRIGHTWARDS DOUBLE ARROW FROM BAR
aDOWNWARDS ARROW WITH HORIZONTAL STROKEaUPWARDS ARROW WITH HORIZONTAL STROKEiTRIPLE ARROW
aDOWNWARDS TRIPLE ARROWaLEFTWARDS DOUBLE DASH ARROWaRIGHTWARDS DOUBLE DASH ARROW
aLEFTWARDS TRIPLE DASH ARROWaRIGHTWARDS TRIPLE DASH ARROWmWO-HEADED TRIPLE DASH ARROW
lARROW WITH DOTTED STEMaUPWARDS ARROW TO BARaDOWNWARDS ARROW TO BAR
aRIGHTWARDS ARROW WITH TAIL WITH VERTICAL STROKEzhDOUBLE VERTICAL STROKE
lTWO-HEADED ARROW WITH TAILzm WITH VERTICAL STROKEzsDOUBLE VERTICAL STROKEaLEFTWARDS ARROW-TAIL
aRIGHTWARDS ARROW-TAILaLEFTWARDS DOUBLE ARROW-TAILaRIGHTWARDS DOUBLE ARROW-TAIL
aLEFTWARDS ARROW TO BLACK DIAMONDaRIGHTWARDS ARROW TO BLACK DIAMOND
aLEFTWARDS ARROW FROM BAR TO BLACK DIAMONDaRIGHTWARDS ARROW FROM BAR TO BLACK DIAMOND
aNORTH WEST AND SOUTH EAST ARROWgEAST AND SOUTH WEST ARROWgWEST ARROW WITH HOOK
gEAST ARROW WITH HOOKaSOUTH EAST ARROW WITH HOOKgWEST ARROW WITH HOOK
aNORTH WEST ARROW AND NORTH EAST ARROWgEAST ARROW AND SOUTH EAST ARROW
aSOUTH EAST ARROW AND SOUTH WEST ARROWgWEST ARROW AND NORTH WEST ARROW
aRISING DIAGONAL CROSSING FALLING DIAGONALaFALLING DIAGONAL CROSSING RISING DIAGONAL
aSOUTH EAST ARROW CROSSING NORTH EAST ARROWaNORTH EAST ARROW CROSSING SOUTH EAST ARROW
aFALLING DIAGONAL CROSSING NORTH EAST ARROWaRISING DIAGONAL CROSSING SOUTH EAST ARROW
aNORTH EAST ARROW CROSSING NORTH WEST ARROWgWEST ARROW CROSSING NORTH EAST ARROW
aWAVE ARROW POINTING DIRECTLY RIGHTaARROW POINTING RIGHTWARDS THEN CURVING UPWARDSzoDOWNWARDS
pDOWNWARDS THEN CURVING LEFTWARDSznRIGHTWARDSaRIGHT-SIDE ARC CLOCKWISE ARROW
aLEFT-SIDE ARC ANTICLOCKWISE ARROWaTOP ARC ANTICLOCKWISE ARROWaBOTTOM ARC ANTICLOCKWISE ARROW
aTOP ARC CLOCKWISE ARROW WITH MINUSiANTICLOCKWISE ARROW WITH PLUS
aLOWER RIGHT SEMICIRCULAR CLOCKWISE ARROWgLEFT SEMICIRCULAR ANTICLOCKWISE ARROW
aANTICLOCKWISE CLOSED CIRCLE ARROWaCLOCKWISE CLOSED CIRCLE ARROW
aRIGHTWARDS ARROW ABOVE SHORT LEFTWARDS ARROWaLEFTWARDS ARROW ABOVE SHORT RIGHTWARDS ARROW
aSHORT RIGHTWARDS ARROW ABOVE LEFTWARDS ARROWaRIGHTWARDS ARROW WITH PLUS BELOW
aLEFTWARDS ARROW WITH PLUS BELOWaRIGHTWARDS ARROW THROUGH XaLEFT RIGHT ARROW THROUGH SMALL CIRCLE
aUPWARDS TWO-HEADED ARROW FROM SMALL CIRCLEaLEFT BARB UP RIGHT BARB DOWN HARPOON
kDOWN RIGHT BARB UP HARPOONaUP BARB RIGHT DOWN BARB LEFT HARPOONiLEFT DOWN BARB RIGHT HARPOON
aLEFT BARB UP RIGHT BARB UP HARPOONaUP BARB RIGHT DOWN BARB RIGHT HARPOON
aLEFT BARB DOWN RIGHT BARB DOWN HARPOONaUP BARB LEFT DOWN BARB LEFT HARPOON
aLEFTWARDS HARPOON WITH BARB UP TO BARaRIGHTWARDS HARPOON WITH BARB UP TO BAR
aUPWARDS HARPOON WITH BARB RIGHT TO BARaDOWNWARDS HARPOON WITH BARB RIGHT TO BAR
aLEFTWARDS HARPOON WITH BARB DOWN TO BARaRIGHTWARDS HARPOON WITH BARB DOWN TO BAR
aUPWARDS HARPOON WITH BARB LEFT TO BARaDOWNWARDS HARPOON WITH BARB LEFT TO BAR
aLEFTWARDS HARPOON WITH BARB UP FROM BARaRIGHTWARDS HARPOON WITH BARB UP FROM BAR
aUPWARDS HARPOON WITH BARB RIGHT FROM BARaDOWNWARDS HARPOON WITH BARB RIGHT FROM BAR
aLEFTWARDS HARPOON WITH BARB DOWN FROM BARaRIGHTWARDS HARPOON WITH BARB DOWN FROM BAR
aUPWARDS HARPOON WITH BARB LEFT FROM BARaDOWNWARDS HARPOON WITH BARB LEFT FROM BAR
aLEFTWARDS HARPOON WITH BARB UP ABOVE LEFTWARDS HARPOON WITH BARB DOWN
aUPWARDS HARPOON WITH BARB LEFT BESIDE UPWARDS HARPOON WITH BARB RIGHT
aRIGHTWARDS HARPOON WITH BARB UP ABOVE RIGHTWARDS HARPOON WITH BARB DOWN
aDOWNWARDS HARPOON WITH BARB LEFT BESIDE DOWNWARDS HARPOON WITH BARB RIGHT
aLEFTWARDS HARPOON WITH BARB UP ABOVE RIGHTWARDS HARPOON WITH BARB UP
zdDOWN ABOVE RIGHTWARDS HARPOON WITH BARB DOWN
aRIGHTWARDS HARPOON WITH BARB UP ABOVE LEFTWARDS HARPOON WITH BARB UP
zeDOWN ABOVE LEFTWARDS HARPOON WITH BARB DOWNaLEFTWARDS HARPOON WITH BARB UP ABOVE LONG DASH
zdDOWN BELOW LONG DASHaRIGHTWARDS HARPOON WITH BARB UP ABOVE LONG DASHzeDOWN BELOW LONG DASH
aUPWARDS HARPOON WITH BARB LEFT BESIDE DOWNWARDS HARPOON WITH BARB RIGHT
aDOWNWARDS HARPOON WITH BARB LEFT BESIDE UPWARDS HARPOON WITH BARB RIGHT
aRIGHT DOUBLE ARROW WITH ROUNDED HEADaEQUALS SIGN ABOVE RIGHTWARDS ARROW
aTILDE OPERATOR ABOVE RIGHTWARDS ARROWaLEFTWARDS ARROW ABOVE TILDE OPERATOR
aRIGHTWARDS ARROW ABOVE TILDE OPERATORxALMOST EQUAL TOaLESS-THAN ABOVE LEFTWARDS ARROW
cFTWARDS ARROW THROUGH LESS-THANaGREATER-THAN ABOVE RIGHTWARDS ARROWaSUBSET ABOVE RIGHTWARDS ARROW
aLEFTWARDS ARROW THROUGH SUBSETaSUPERSET ABOVE LEFTWARDS ARROWaLEFT FISH TAILaRIGHT FISH TAIL
aUP FISH TAILaDOWN FISH TAILaTRIPLE VERTICAL BAR DELIMITERaZ NOTATION SPOTlTYPE COLON
aLEFT WHITE CURLY BRACKETaRIGHT WHITE CURLY BRACKETaLEFT WHITE PARENTHESISaRIGHT WHITE PARENTHESIS
aZ NOTATION LEFT IMAGE BRACKETlRIGHT IMAGE BRACKETlLEFT BINDING BRACKETlRIGHT BINDING BRACKET
aLEFT SQUARE BRACKET WITH UNDERBARaRIGHT SQUARE BRACKET WITH UNDERBAR
aLEFT SQUARE BRACKET WITH TICK IN TOP CORNERaRIGHT SQUARE BRACKET WITH TICK IN BOTTOM CORNER
aLEFT SQUARE BRACKET WITH TICK IN BOTTOM CORNERaRIGHT SQUARE BRACKET WITH TICK IN TOP CORNER
aLEFT ANGLE BRACKET WITH DOTaRIGHT ANGLE BRACKET WITH DOTaLEFT ARC LESS-THAN BRACKET
aRIGHT ARC GREATER-THAN BRACKETaDOUBLE LEFT ARC GREATER-THAN BRACKEThRIGHT ARC LESS-THAN BRACKET
aLEFT BLACK TORTOISE SHELL BRACKETaRIGHT BLACK TORTOISE SHELL BRACKETaDOTTED FENCE
aVERTICAL ZIGZAG LINEaMEASURED ANGLE OPENING LEFTaRIGHT ANGLE VARIANT WITH SQUARE
aMEASURED RIGHT ANGLE WITH DOTaANGLE WITH S INSIDEbCUTE ANGLEaSPHERICAL ANGLE OPENING LEFTyUP
aTURNED ANGLEaREVERSED ANGLEaANGLE WITH UNDERBARaREVERSED ANGLE WITH UNDERBAR
aOBLIQUE ANGLE OPENING UPwDOWNaMEASURED ANGLE WITH OPEN ARM ENDING IN ARROW POINTING UP AND RIGHT
zzlLEFTzzeDOWN AND RIGHTzznLEFTzzeRIGHT AND UPzzeLEFT AND UPzzeRIGHT AND DOWNzzeLEFT AND DOWN
aREVERSED EMPTY SETaEMPTY SET WITH OVERBARpSMALL CIRCLE ABOVEpRIGHT ARROW ABOVEpLEFT ARROW ABOVE
aCIRCLE WITH HORIZONTAL BARgD VERTICAL BARiPARALLELiREVERSE SOLIDUSiPERPENDICULAR
g DIVIDED BY HORIZONTAL BAR AND TOP HALF DIVIDED BY VERTICAL BARhWITH SUPERIMPOSED X
gD ANTICLOCKWISE-ROTATED DIVISION SIGNaUP ARROW THROUGH CIRCLEaCIRCLED WHITE BULLETiBULLET
iLESS-THANiGREATER-THANg WITH SMALL CIRCLE TO THE RIGHTmTWO HORIZONTAL STROKES TO THE RIGHT
aSQUARED RISING DIAGONAL SLASHiFALLING DIAGONAL SLASHiASTERISKiSMALL CIRCLEjQUARE
aTWO JOINED SQUARESbRIANGLE WITH DOT ABOVEoUNDERBARaS IN TRIANGLEaTRIANGLE WITH SERIFS AT BOTTOM
aRIGHT TRIANGLE ABOVE LEFT TRIANGLEaLEFT TRIANGLE BESIDE VERTICAL BAR
aVERTICAL BAR BESIDE RIGHT TRIANGLEaBOWTIE WITH LEFT HALF BLACKmRIGHT HALF BLACKbLACK BOWTIE
aTIMES WITH LEFT HALF BLACKlRIGHT HALF BLACKaWHITE HOURGLASSaBLACK HOURGLASSaLEFT WIGGLY FENCE
aRIGHT WIGGLY FENCEaLEFT DOUBLE WIGGLY FENCEaRIGHT DOUBLE WIGGLY FENCEaINCOMPLETE INFINITY
aTIE OVER INFINITYaINFINITY NEGATED WITH VERTICAL BARaDOUBLE-ENDED MULTIMAP
aSQUARE WITH CONTOURED OUTLINEaINCREASES ASaSHUFFLE PRODUCTaEQUALS SIGN AND SLANTED PARALLEL
zh WITH TILDE ABOVEaIDENTICAL TO AND SLANTED PARALLELaGLEICH STARKaTHERMODYNAMIC
aDOWN-POINTING TRIANGLE WITH LEFT HALF BLACKzdRIGHT HALF BLACKaBLACK DIAMOND WITH DOWN ARROW
gLOZENGEaWHITE CIRCLE WITH DOWN ARROWaBLACK CIRCLE WITH DOWN ARROWaERROR-BARRED WHITE SQUARE
nBLACK SQUAREnWHITE DIAMONDnBLACK DIAMONDnWHITE CIRCLEnBLACK CIRCLEaRULE-DELAYED
bEVERSE SOLIDUS OPERATORaSOLIDUS WITH OVERBARaREVERSE SOLIDUS WITH HORIZONTAL STROKEaBIG SOLIDUS
eREVERSE SOLIDUSaDOUBLE PLUSaTRIPLE PLUSaLEFT-POINTING CURVED ANGLE BRACKET
aRIGHT-POINTING CURVED ANGLE BRACKETaTINYaMINYaN-ARY CIRCLED DOT OPERATORoPLUS OPERATOR
oTIMES OPERATORgUNION OPERATOR WITH DOTzbPLUSgSQUARE INTERSECTION OPERATORnUNION OPERATOR
aTWO LOGICAL AND OPERATORmOR OPERATORaN-ARY TIMES OPERATORaMODULO TWO SUMaSUMMATION WITH INTEGRAL
aQUADRUPLE INTEGRAL OPERATORaFINITE PART INTEGRALaINTEGRAL WITH DOUBLE STROKEjAVERAGE WITH SLASH
aCIRCULATION FUNCTIONaANTICLOCKWISE INTEGRATIONaLINE INTEGRATION WITH RECTANGULAR PATH AROUND POLE
wSEMICIRCULAR PATH AROUND POLErNOT INCLUDING THE POLEaINTEGRAL AROUND A POINT OPERATOR
aQUATERNION INTEGRAL OPERATORaINTEGRAL WITH LEFTWARDS ARROW WITH HOOKoTIMES SIGNoINTERSECTION
oUNIONoOVERBARoUNDERBARaJOINaLARGE LEFT TRIANGLE OPERATORaZ NOTATION SCHEMA COMPOSITIONsPIPING
tROJECTIONaPLUS SIGN WITH SMALL CIRCLE ABOVEpCIRCUMFLEX ACCENT ABOVEpTILDE ABOVEpDOT BELOW
pTILDE BELOWpSUBSCRIPT TWOpBLACK TRIANGLEaMINUS SIGN WITH COMMA ABOVEqDOT BELOWqFALLING DOTS
qRISING DOTSaPLUS SIGN IN LEFT HALF CIRCLEnRIGHT HALF CIRCLEaVECTOR OR CROSS PRODUCT
aMULTIPLICATION SIGN WITH DOT ABOVEzUNDERBARaSEMIDIRECT PRODUCT WITH BOTTOM CLOSEDbMASH PRODUCT
aMULTIPLICATION SIGN IN LEFT HALF CIRCLExRIGHT HALF CIRCLE
aCIRCLED MULTIPLICATION SIGN WITH CIRCUMFLEX ACCENTaMULTIPLICATION SIGN IN DOUBLE CIRCLE
aCIRCLED DIVISION SIGNaPLUS SIGN IN TRIANGLEaMINUS SIGN IN TRIANGLEbULTIPLICATION SIGN IN TRIANGLE
aINTERIOR PRODUCTaRIGHTHAND INTERIOR PRODUCTaZ NOTATION RELATIONAL COMPOSITION
aAMALGAMATION OR COPRODUCTaINTERSECTION WITH DOTaUNION WITH MINUS SIGNlOVERBAR
aINTERSECTION WITH OVERBARsLOGICAL ANDaUNION WITH LOGICAL ORgABOVE INTERSECTION
aINTERSECTION ABOVE UNIONaUNION ABOVE BAR ABOVE INTERSECTIONaINTERSECTION ABOVE BAR ABOVE UNION
aUNION BESIDE AND JOINED WITH UNIONaINTERSECTION BESIDE AND JOINED WITH INTERSECTION
aCLOSED UNION WITH SERIFShINTERSECTION WITH SERIFSaDOUBLE SQUARE INTERSECTIONoUNION
aCLOSED UNION WITH SERIFS AND SMASH PRODUCTaLOGICAL AND WITH DOT ABOVEiOR WITH DOT ABOVE
aDOUBLE LOGICAL ANDpORaTWO INTERSECTING LOGICAL ANDzORaSLOPING LARGE ORoAND
aLOGICAL OR OVERLAPPING LOGICAL ANDiAND WITH MIDDLE STEMiOR WITH MIDDLE STEM
iAND WITH HORIZONTAL DASHiOR WITH HORIZONTAL DASHiAND WITH DOUBLE OVERBARrUNDERBARrDOUBLE UNDERBAR
aSMALL VEE WITH UNDERBARaLOGICAL OR WITH DOUBLE OVERBARxUNDERBARaZ NOTATION DOMAIN ANTIRESTRICTION
lRANGE ANTIRESTRICTIONaEQUALS SIGN WITH DOT BELOWaIDENTICAL WITH DOT ABOVE
aTRIPLE HORIZONTAL BAR WITH DOUBLE VERTICAL STROKEzcTRIPLE VERTICAL STROKE
bILDE OPERATOR WITH DOT ABOVEuRISING DOTSaSIMILAR MINUS SIMILARaCONGRUENT WITH DOT ABOVE
aEQUALS WITH ASTERISKaALMOST EQUAL TO WITH CIRCUMFLEX ACCENTbPPROXIMATELY EQUAL OR EQUAL TO
aEQUALS SIGN ABOVE PLUS SIGNaPLUS SIGN ABOVE EQUALS SIGNaEQUALS SIGN ABOVE TILDE OPERATOR
aDOUBLE COLON EQUALaTWO CONSECUTIVE EQUALS SIGNSbHREE CONSECUTIVE EQUALS SIGNS
aEQUALS SIGN WITH TWO DOTS ABOVE AND TWO DOTS BELOWdIVALENT WITH FOUR DOTS ABOVE
aLESS-THAN WITH CIRCLE INSIDEaGREATER-THAN WITH CIRCLE INSIDEaLESS-THAN WITH QUESTION MARK ABOVE
aGREATER-THAN WITH QUESTION MARK ABOVEaLESS-THAN OR SLANTED EQUAL TO
aGREATER-THAN OR SLANTED EQUAL TOaLESS-THAN OR SLANTED EQUAL TO WITH DOT INSIDE
aGREATER-THAN OR SLANTED EQUAL TO WITH DOT INSIDEaLESS-THAN OR SLANTED EQUAL TO WITH DOT ABOVE
aGREATER-THAN OR SLANTED EQUAL TO WITH DOT ABOVE
aLESS-THAN OR SLANTED EQUAL TO WITH DOT ABOVE RIGHT
aGREATER-THAN OR SLANTED EQUAL TO WITH DOT ABOVE LEFTaLESS-THAN OR APPROXIMATE
aGREATER-THAN OR APPROXIMATEaLESS-THAN AND SINGLE-LINE NOT EQUAL TO
aGREATER-THAN AND SINGLE-LINE NOT EQUAL TOaLESS-THAN AND NOT APPROXIMATE
aGREATER-THAN AND NOT APPROXIMATEaLESS-THAN ABOVE DOUBLE-LINE EQUAL ABOVE GREATER-THAN
aGREATER-THAN ABOVE DOUBLE-LINE EQUAL ABOVE LESS-THANaLESS-THAN ABOVE SIMILAR OR EQUAL
aGREATER-THAN ABOVE SIMILAR OR EQUALaLESS-THAN ABOVE SIMILAR ABOVE GREATER-THAN
aGREATER-THAN ABOVE SIMILAR ABOVE LESS-THANaLESS-THAN ABOVE GREATER-THAN ABOVE DOUBLE-LINE EQUAL
aGREATER-THAN ABOVE LESS-THAN ABOVE DOUBLE-LINE EQUAL
aLESS-THAN ABOVE SLANTED EQUAL ABOVE GREATER-THAN ABOVE SLANTED EQUAL
aGREATER-THAN ABOVE SLANTED EQUAL ABOVE LESS-THAN ABOVE SLANTED EQUAL
aSLANTED EQUAL TO OR LESS-THANuGREATER-THANuLESS-THAN WITH DOT INSIDEuGREATER-THAN WITH DOT INSIDE
aDOUBLE-LINE EQUAL TO OR LESS-THANyGREATER-THANmSLANTED EQUAL TO OR LESS-THANzhGREATER-THAN
aSIMILAR OR LESS-THANlGREATER-THANiABOVE LESS-THAN ABOVE EQUALS SIGN
oGREATER-THAN ABOVE EQUALS SIGNaDOUBLE NESTED LESS-THANoGREATER-THANoLESS-THAN WITH UNDERBAR
aGREATER-THAN OVERLAPPING LESS-THANnBESIDE LESS-THANaLESS-THAN CLOSED BY CURVE
aGREATER-THAN CLOSED BY CURVEaLESS-THAN CLOSED BY CURVE ABOVE SLANTED EQUAL
aGREATER-THAN CLOSED BY CURVE ABOVE SLANTED EQUALaSMALLER THANaLARGER THAN
aSMALLER THAN OR EQUAL TOaLARGER THAN OR EQUAL TOaEQUALS SIGN WITH BUMPY ABOVE
aPRECEDES ABOVE SINGLE-LINE EQUALS SIGNaSUCCEEDS ABOVE SINGLE-LINE EQUALS SIGN
aPRECEDES ABOVE SINGLE-LINE NOT EQUAL TOaSUCCEEDS ABOVE SINGLE-LINE NOT EQUAL TO
aPRECEDES ABOVE EQUALS SIGNaSUCCEEDS ABOVE EQUALS SIGNaPRECEDES ABOVE NOT EQUAL TO
aSUCCEEDS ABOVE NOT EQUAL TOaPRECEDES ABOVE ALMOST EQUAL TOaSUCCEEDS ABOVE ALMOST EQUAL TO
aPRECEDES ABOVE NOT ALMOST EQUAL TOaSUCCEEDS ABOVE NOT ALMOST EQUAL TOaDOUBLE PRECEDEShSUCCEEDS
aSUBSET WITH DOTcPERSET WITH DOTcBSET WITH PLUS SIGN BELOWcPERSET WITH PLUS SIGN BELOW
cBSET WITH MULTIPLICATION SIGN BELOWcPERSET WITH MULTIPLICATION SIGN BELOW
cBSET OF OR EQUAL TO WITH DOT ABOVEcPERSET OF OR EQUAL TO WITH DOT ABOVEcBSET OF ABOVE EQUALS SIGN
cPERSET OF ABOVE EQUALS SIGNcBSET OF ABOVE TILDE OPERATORcPERSET OF ABOVE TILDE OPERATOR
cBSET OF ABOVE ALMOST EQUAL TOcPERSET OF ABOVE ALMOST EQUAL TOcBSET OF ABOVE NOT EQUAL TO
cPERSET OF ABOVE NOT EQUAL TObQUARE LEFT OPEN BOX OPERATORhRIGHT OPEN BOX OPERATORaCLOSED SUBSET
jPERSETjBSET OR EQUAL TOjPERSET OR EQUAL TOaSUBSET ABOVE SUPERSETcPERSET ABOVE SUBSET
cBSET ABOVE SUBSETcPERSET ABOVE SUPERSETjBESIDE SUBSETqAND JOINED BY DASH WITH SUBSET
aELEMENT OF OPENING DOWNWARDSaPITCHFORK WITH TEE TOPaTRANSVERSAL INTERSECTIONaFORKINGaNONFORKING
aSHORT LEFT TACKgDOWN TACKgUP TACKaPERPENDICULAR WITH SaVERTICAL BAR TRIPLE RIGHT TURNSTILE
aDOUBLE VERTICAL BAR LEFT TURNSTILEaVERTICAL BAR DOUBLE LEFT TURNSTILE
aDOUBLE VERTICAL BAR DOUBLE LEFT TURNSTILEaLONG DASH FROM LEFT MEMBER OF DOUBLE VERTICAL
aSHORT DOWN TACK WITH OVERBARgUP TACK WITH UNDERBARoABOVE SHORT DOWN TACKaDOUBLE DOWN TACKhUP TACK
hSTROKE NOT SIGNaREVERSED DOUBLE STROKE NOT SIGNaDOES NOT DIVIDE WITH REVERSED NEGATION SLASH
aVERTICAL LINE WITH CIRCLE ABOVEzbBELOWaDOWN TACK WITH CIRCLE BELOW
aPARALLEL WITH HORIZONTAL STROKEoTILDE OPERATORaTRIPLE VERTICAL BAR BINARY RELATION
uWITH HORIZONTAL STROKEhCOLON OPERATORhNESTED LESS-THANoGREATER-THAN
aDOUBLE-LINE SLANTED LESS-THAN OR EQUAL TOuGREATER-THAN OR EQUAL TOaTRIPLE SOLIDUS BINARY RELATION
aLARGE TRIPLE VERTICAL BAR OPERATORaDOUBLE SOLIDUS OPERATORaWHITE VERTICAL BAR
aN-ARY WHITE VERTICAL BARbORTH EAST WHITE ARROWgWEST WHITE ARROWaSOUTH EAST WHITE ARROW
gWEST WHITE ARROWaLEFT RIGHT WHITE ARROWeWARDS BLACK ARROWaUPWARDS BLACK ARROW
aDOWNWARDS BLACK ARROWaNORTH EAST BLACK ARROWgWEST BLACK ARROWaSOUTH EAST BLACK ARROW
gWEST BLACK ARROWaLEFT RIGHT BLACK ARROWaUP DOWN BLACK ARROWaRIGHTWARDS ARROW WITH TIP DOWNWARDS
zbUPWARDSaLEFTWARDS ARROW WITH TIP DOWNWARDSzUPWARDSaSQUARE WITH TOP HALF BLACKmBOTTOM HALF BLACK
mUPPER RIGHT DIAGONAL HALF BLACKmLOWER LEFT DIAGONAL HALF BLACKaDIAMOND WITH LEFT HALF BLACK
nRIGHT HALF BLACKnTOP HALF BLACKnBOTTOM HALF BLACKbOTTED SQUAREaBLACK LARGE SQUARE
aWHITE LARGE SQUAREaBLACK VERY SMALL SQUAREaWHITE VERY SMALL SQUAREaBLACK PENTAGONaWHITE PENTAGON
gHEXAGONaBLACK HEXAGONaHORIZONTAL BLACK HEXAGONaBLACK LARGE CIRCLEgMEDIUM DIAMOND
aWHITE MEDIUM DIAMONDaBLACK MEDIUM LOZENGEaWHITE MEDIUM LOZENGEaBLACK SMALL DIAMONDmLOZENGE
aWHITE SMALL LOZENGEaBLACK HORIZONTAL ELLIPSEaWHITE HORIZONTAL ELLIPSEaBLACK VERTICAL ELLIPSE
aWHITE VERTICAL ELLIPSEaLEFT ARROW WITH SMALL CIRCLEaTHREE LEFTWARDS ARROWS
aLEFT ARROW WITH CIRCLED PLUSbONG LEFTWARDS SQUIGGLE ARROW
bEFTWARDS TWO-HEADED ARROW WITH VERTICAL STROKEzhDOUBLE VERTICAL STROKEzcFROM BAR
vTRIPLE DASH ARROWkARROW WITH DOTTED STEMvTAIL WITH VERTICAL STROKEzgDOUBLE VERTICAL STROKE
kTWO-HEADED ARROW WITH TAILzl WITH VERTICAL STROKEzrDOUBLE VERTICAL STROKEkARROW THROUGH X
aWAVE ARROW POINTING DIRECTLY LEFTaEQUALS SIGN ABOVE LEFTWARDS ARROW
aREVERSE TILDE OPERATOR ABOVE LEFTWARDS ARROWaLEFTWARDS ARROW ABOVE REVERSE ALMOST EQUAL TO
aRIGHTWARDS ARROW THROUGH GREATER-THANzSUPERSETaLEFTWARDS QUADRUPLE ARROW
aRIGHTWARDS QUADRUPLE ARROWbEVERSE TILDE OPERATOR ABOVE RIGHTWARDS ARROW
bIGHTWARDS ARROW ABOVE REVERSE ALMOST EQUAL TOaTILDE OPERATOR ABOVE LEFTWARDS ARROW
aLEFTWARDS ARROW ABOVE ALMOST EQUAL TOwREVERSE TILDE OPERATOR
aRIGHTWARDS ARROW ABOVE REVERSE TILDE OPERATORaDOWNWARDS TRIANGLE-HEADED ZIGZAG ARROW
aSHORT SLANTED NORTH ARROWgBACKSLANTED SOUTH ARROWaWHITE MEDIUM STARaBLACK SMALL STAR
aWHITE SMALL STARaBLACK RIGHT-POINTING PENTAGONaWHITE RIGHT-POINTING PENTAGONaHEAVY LARGE CIRCLE
gOVAL WITH OVAL INSIDEgCIRCLE WITH CIRCLE INSIDElEmD SALTIREaSLANTED NORTH ARROW WITH HOOKED HEAD
aBACKSLANTED SOUTH ARROW WITH HOOKED TAILaSLANTED NORTH ARROW WITH HORIZONTAL TAIL
aBACKSLANTED SOUTH ARROW WITH HORIZONTAL TAILbENT ARROW POINTING DOWNWARDS THEN NORTH EAST
aSHORT BENT ARROW POINTING DOWNWARDS THEN NORTH EASTaLEFTWARDS TRIANGLE-HEADED ARROW
aUPWARDS TRIANGLE-HEADED ARROWaRIGHTWARDS TRIANGLE-HEADED ARROWaDOWNWARDS TRIANGLE-HEADED ARROW
aLEFT RIGHT TRIANGLE-HEADED ARROWaUP DOWN TRIANGLE-HEADED ARROWaNORTH WEST TRIANGLE-HEADED ARROW
gEAST TRIANGLE-HEADED ARROWaSOUTH EAST TRIANGLE-HEADED ARROWgWEST TRIANGLE-HEADED ARROW
aLEFTWARDS TRIANGLE-HEADED DASHED ARROWaUPWARDS TRIANGLE-HEADED DASHED ARROW
aRIGHTWARDS TRIANGLE-HEADED DASHED ARROWaDOWNWARDS TRIANGLE-HEADED DASHED ARROW
aCLOCKWISE TRIANGLE-HEADED OPEN CIRCLE ARROWaANTICLOCKWISE TRIANGLE-HEADED OPEN CIRCLE ARROW
aLEFTWARDS TRIANGLE-HEADED ARROW TO BARaUPWARDS TRIANGLE-HEADED ARROW TO BAR
aRIGHTWARDS TRIANGLE-HEADED ARROW TO BARaDOWNWARDS TRIANGLE-HEADED ARROW TO BAR
<2B76>aNORTH WEST TRIANGLE-HEADED ARROW TO BARgEAST TRIANGLE-HEADED ARROW TO BAR
aSOUTH EAST TRIANGLE-HEADED ARROW TO BARgWEST TRIANGLE-HEADED ARROW TO BAR
aLEFTWARDS TRIANGLE-HEADED ARROW WITH DOUBLE HORIZONTAL STROKE
aUPWARDS TRIANGLE-HEADED ARROW WITH DOUBLE HORIZONTAL STROKE
aRIGHTWARDS TRIANGLE-HEADED ARROW WITH DOUBLE HORIZONTAL STROKE
aDOWNWARDS TRIANGLE-HEADED ARROW WITH DOUBLE HORIZONTAL STROKEaHORIZONTAL TAB KEYaVERTICAL TAB KEY
aLEFTWARDS TRIANGLE-HEADED ARROW OVER RIGHTWARDS TRIANGLE-HEADED ARROW
aUPWARDS TRIANGLE-HEADED ARROW LEFTWARDS OF DOWNWARDS TRIANGLE-HEADED ARROW
aRIGHTWARDS TRIANGLE-HEADED ARROW OVER LEFTWARDS TRIANGLE-HEADED ARROW
aDOWNWARDS TRIANGLE-HEADED ARROW LEFTWARDS OF UPWARDS TRIANGLE-HEADED ARROW
aLEFTWARDS TRIANGLE-HEADED PAIRED ARROWSaUPWARDS TRIANGLE-HEADED PAIRED ARROWS
aRIGHTWARDS TRIANGLE-HEADED PAIRED ARROWSaDOWNWARDS TRIANGLE-HEADED PAIRED ARROWS
aLEFTWARDS BLACK CIRCLED WHITE ARROWaUPWARDS BLACK CIRCLED WHITE ARROW
aRIGHTWARDS BLACK CIRCLED WHITE ARROWaDOWNWARDS BLACK CIRCLED WHITE ARROW
aANTICLOCKWISE TRIANGLE-HEADED RIGHT U-SHAPED ARROWzfBOTTOM U-SHAPED ARROWzfLEFT U-SHAPED ARROW
zfTOP U-SHAPED ARROWaRETURN LEFThRIGHTaNEWLINE LEFTiRIGHT
aFOUR CORNER ARROWS CIRCLING ANTICLOCKWISEaRIGHTWARDS BLACK ARROW
<2B97>aSYMBOL FOR TYPE A ELECTRONICSaTHREE-D TOP-LIGHTED LEFTWARDS EQUILATERAL ARROWHEAD
iRIGHT-LIGHTED UPWARDS EQUILATERAL ARROWHEADiTOP-LIGHTED RIGHTWARDS EQUILATERAL ARROWHEAD
iLEFT-LIGHTED DOWNWARDS EQUILATERAL ARROWHEADaBLACK LEFTWARDS EQUILATERAL ARROWHEAD
gUPWARDS EQUILATERAL ARROWHEADgRIGHTWARDS EQUILATERAL ARROWHEADgDOWNWARDS EQUILATERAL ARROWHEAD
aDOWNWARDS TRIANGLE-HEADED ARROW WITH LONG TIP LEFTWARDSzvRIGHTWARDS
aUPWARDS TRIANGLE-HEADED ARROW WITH LONG TIP LEFTWARDSztRIGHTWARDS
aLEFTWARDS TRIANGLE-HEADED ARROW WITH LONG TIP UPWARDS
aRIGHTWARDS TRIANGLE-HEADED ARROW WITH LONG TIP UPWARDS
aLEFTWARDS TRIANGLE-HEADED ARROW WITH LONG TIP DOWNWARDS
aRIGHTWARDS TRIANGLE-HEADED ARROW WITH LONG TIP DOWNWARDS
aBLACK CURVED DOWNWARDS AND LEFTWARDS ARROWzcRIGHTWARDS ARROWnUPWARDS AND LEFTWARDS ARROW
zRIGHTWARDS ARROWnLEFTWARDS AND UPWARDS ARROWnRIGHTWARDS AND UPWARDS ARROW
nLEFTWARDS AND DOWNWARDS ARROWnRIGHTWARDS AND DOWNWARDS ARROWaRIBBON ARROW DOWN LEFTsRIGHTnUP LEFT
qRIGHTnLEFT UPnRIGHT UPnLEFT DOWNnRIGHT DOWNaUPWARDS WHITE ARROW FROM BAR WITH HORIZONTAL BAR
c ARROWHEAD IN A RECTANGLE BOXaOVERLAPPING WHITE SQUARESsAND BLACK SQUARESmBLACK SQUARES
aBALLOT BOX WITH LIGHT XaCIRCLED XiBOLD XaBLACK SQUARE CENTREDgDIAMOND CENTRED
aTURNED BLACK PENTAGONaHORIZONTAL BLACK OCTAGONaBLACK OCTAGONgMEDIUM UP-POINTING TRIANGLE CENTRED
nDOWN-POINTING TRIANGLE CENTREDnLEFT-POINTING TRIANGLE CENTREDnRIGHT-POINTING TRIANGLE CENTRED
aNEPTUNE FORM TWOaTOP HALF BLACK CIRCLEaBOTTOM HALF BLACK CIRCLEaLIGHT FOUR POINTED BLACK CUSP
aROTATED LIGHT FOUR POINTED BLACK CUSPaWHITE FOUR POINTED CUSPaROTATED WHITE FOUR POINTED CUSP
aSQUARE POSITION INDICATORaUNCERTAINTY SIGNaGROUP MARKaPLUTO FORM TWOmHREElFOURmIVEaTRANSPLUTO
aPROSERPINAaASTRAEAaHYGIEAaPHOLUSaNESSUSaWHITE MOON SELENAaBLACK DIAMOND ON CROSS
aTRUE LIGHT MOON ARTAaCUPIDOaHADESaZEUSaKRONOSaAPOLLONbDMETOSaVULCANUSaPOSEIDON
aLEFT HALF BLACK STARaRIGHT HALF BLACK STARaSTAR WITH LEFT HALF BLACKkRIGHT HALF BLACK
aLEFTWARDS TWO-HEADED ARROW WITH TRIANGLE ARROWHEADS
aUPWARDS TWO-HEADED ARROW WITH TRIANGLE ARROWHEADS
aRIGHTWARDS TWO-HEADED ARROW WITH TRIANGLE ARROWHEADS
aDOWNWARDS TWO-HEADED ARROW WITH TRIANGLE ARROWHEADSaERIS FORM ONEkTWOaSEDNA
aRUSSIAN ASTROLOGICAL SYMBOL VIGINTILEzdNOVILEzdQUINTILEzdBINOVILEzdSENTAGONzdTREDECILE
aEQUALS SIGN WITH INFINITY BELOWaUNITED SYMBOLaSEPARATED SYMBOLaDOUBLED SYMBOLaPASSED SYMBOL
aREVERSED RIGHT ANGLEaHELLSCHREIBER PAUSE SYMBOLaGLAGOLITIC CAPITAL LETTER AZUzbBUKYzbVEDE
zbGLAGOLIzbDOBROzbYESTUzbZHIVETEzbDZELOzbZEMLJAzbIZHEzcNITIAL IZHEzbIzbDJERVIzbKAKOzbLJUDIJE
zbMYSLITEzbNASHIzbONUzbPOKOJIzbRITSIzbSLOVOzbTVRIDOzbUKUzbFRITUzbHERUzbOTUzbPEzbSHTAzbTSIzbCHRIVI
zbSHAzbYERUzeIzcATIzbSPIDERY HAzbYUzbSMALL YUSzk WITH TAILzbYOzbIOTATED SMALL YUSzbBIG YUS
zbIOTATED BIG YUSzbFITAzbIZHITSAzbSHTAPICzbTROKUTASTI AzbLATINATE MYSLITEzbCAUDATE CHRIVI
lSMALL LETTER AZUyBUKYyVEDEyGLAGOLIyDOBROyYESTUyZHIVETEyDZELOyZEMLJAyIZHEzNITIAL IZHEyIyDJERVI
yKAKOyLJUDIJEyMYSLITEyNASHIyONUyPOKOJIyRITSIySLOVOyTVRIDOyUKUyFRITUyHERUyOTUyPEySHTAyTSIyCHRIVI
ySHAyYERUzcIzATIySPIDERY HAyYUySMALL YUSzi WITH TAILyYOyIOTATED SMALL YUSyBIG YUSyIOTATED BIG YUS
yFITAyIZHITSAySHTAPICyTROKUTASTI AyLATINATE MYSLITEyCAUDATE CHRIVI
aLATIN CAPITAL LETTER L WITH DOUBLE BARgSMALL LETTER L WITH DOUBLE BAR
gCAPITAL LETTER L WITH MIDDLE TILDEvP WITH STROKEvR WITH TAILgSMALL LETTER A WITH STROKE
tT WITH DIAGONAL STROKEgCAPITAL LETTER H WITH DESCENDERgSMALL LETTER H WITH DESCENDER
gCAPITAL LETTER K WITH DESCENDERgSMALL LETTER K WITH DESCENDERgCAPITAL LETTER Z WITH DESCENDER
gSMALL LETTER Z WITH DESCENDERgCAPITAL LETTER ALPHAvM WITH HOOKvTURNED AzeLPHA
gSMALL LETTER V WITH RIGHT HOOKgCAPITAL LETTER W WITH HOOKgSMALL LETTER W WITH HOOKtV WITH CURL
gCAPITAL LETTER HALF HgSMALL LETTER HALF HtTAILLESS PHItE WITH NOTCHtTURNED R WITH TAIL
tO WITH LOW RING INSIDEgLETTER SMALL CAPITAL TURNED EgSUBSCRIPT SMALL LETTER J
aMODIFIER LETTER CAPITAL VaLATIN CAPITAL LETTER S WITH SWASH TAILvZ WITH SWASH TAIL
aCOPTIC CAPITAL LETTER ALFAhSMALL LETTER ALFAhCAPITAL LETTER VIDAhSMALL LETTER VIDA
hCAPITAL LETTER GAMMAhSMALL LETTER GAMMAhCAPITAL LETTER DALDAhSMALL LETTER DALDA
hCAPITAL LETTER EIEhSMALL LETTER EIEhCAPITAL LETTER SOUhSMALL LETTER SOUhCAPITAL LETTER ZATA
hSMALL LETTER ZATAhCAPITAL LETTER HATEhSMALL LETTER HATEhCAPITAL LETTER THETHEhSMALL LETTER THETHE
hCAPITAL LETTER IAUDAhSMALL LETTER IAUDAhCAPITAL LETTER KAPAhSMALL LETTER KAPA
hCAPITAL LETTER LAULAhSMALL LETTER LAULAhCAPITAL LETTER MIhSMALL LETTER MIhCAPITAL LETTER NI
hSMALL LETTER NIhCAPITAL LETTER KSIhSMALL LETTER KSIhCAPITAL LETTER OhSMALL LETTER O
hCAPITAL LETTER PIhSMALL LETTER PIhCAPITAL LETTER ROhSMALL LETTER ROhCAPITAL LETTER SIMA
hSMALL LETTER SIMAhCAPITAL LETTER TAUhSMALL LETTER TAUhCAPITAL LETTER UAhSMALL LETTER UA
hCAPITAL LETTER FIhSMALL LETTER FIhCAPITAL LETTER KHIhSMALL LETTER KHIhCAPITAL LETTER PSI
hSMALL LETTER PSIhCAPITAL LETTER OOUhSMALL LETTER OOUhCAPITAL LETTER DIALECT-P ALEF
hSMALL LETTER DIALECT-P ALEFhCAPITAL LETTER OLD COPTIC AINhSMALL LETTER OLD COPTIC AIN
hCAPITAL LETTER CRYPTOGRAMMIC EIEhSMALL LETTER CRYPTOGRAMMIC EIEhCAPITAL LETTER DIALECT-P KAPA
hSMALL LETTER DIALECT-P KAPAhCAPITAL LETTER DIALECT-P NIhSMALL LETTER DIALECT-P NI
hCAPITAL LETTER CRYPTOGRAMMIC NIhSMALL LETTER CRYPTOGRAMMIC NIhCAPITAL LETTER OLD COPTIC OOU
hSMALL LETTER OLD COPTIC OOUhCAPITAL LETTER SAMPIhSMALL LETTER SAMPIhCAPITAL LETTER CROSSED SHEI
hSMALL LETTER CROSSED SHEIhCAPITAL LETTER OLD COPTIC SHEIhSMALL LETTER OLD COPTIC SHEI
hCAPITAL LETTER OLD COPTIC ESHhSMALL LETTER OLD COPTIC ESHhCAPITAL LETTER AKHMIMIC KHEI
hSMALL LETTER AKHMIMIC KHEIhCAPITAL LETTER DIALECT-P HORIhSMALL LETTER DIALECT-P HORI
hCAPITAL LETTER OLD COPTIC HORIhSMALL LETTER OLD COPTIC HORIhCAPITAL LETTER OLD COPTIC HA
hSMALL LETTER OLD COPTIC HAhCAPITAL LETTER L-SHAPED HAhSMALL LETTER L-SHAPED HA
hCAPITAL LETTER OLD COPTIC HEIhSMALL LETTER OLD COPTIC HEIhCAPITAL LETTER OLD COPTIC HAT
hSMALL LETTER OLD COPTIC HAThCAPITAL LETTER OLD COPTIC GANGIAhSMALL LETTER OLD COPTIC GANGIA
hCAPITAL LETTER OLD COPTIC DJAhSMALL LETTER OLD COPTIC DJAhCAPITAL LETTER OLD COPTIC SHIMA
hSMALL LETTER OLD COPTIC SHIMAhCAPITAL LETTER OLD NUBIAN SHIMAhSMALL LETTER OLD NUBIAN SHIMA
hCAPITAL LETTER OLD NUBIAN NGIhSMALL LETTER OLD NUBIAN NGIhCAPITAL LETTER OLD NUBIAN NYI
hSMALL LETTER OLD NUBIAN NYIhCAPITAL LETTER OLD NUBIAN WAUhSMALL LETTER OLD NUBIAN WAUiYMBOL KAI
oMI ROoPI ROoSTAUROSoTAU ROoKHI ROoSHIMA SIMAhCAPITAL LETTER CRYPTOGRAMMIC SHEI
hSMALL LETTER CRYPTOGRAMMIC SHEIhCAPITAL LETTER CRYPTOGRAMMIC GANGIA
hSMALL LETTER CRYPTOGRAMMIC GANGIAhCOMBINING NI ABOVErSPIRITUS ASPERzbLENIS
iAPITAL LETTER BOHAIRIC KHEIhSMALL LETTER BOHAIRIC KHEI<2CF9>hOLD NUBIAN FULL STOP
sDIRECT QUESTION MARKsINDIRECT QUESTION MARKsVERSE DIVIDERhFRACTION ONE HALFiULL STOP
hMORPHOLOGICAL DIVIDERaGEORGIAN SMALL LETTER ANwBANwGANwDONwENwVINwZENwTANwINwKANwLASwMANwNARwON
wPARwZHARwRAEwSANwTARwUNwPHARwKHARwGHANwQARwSHINwCHINxANwJILwCILxHARwXANwJHANwHAExExIEwWEwHARxOE
<2D27>wYN<2D2D>wAEN<2D30>aTIFINAGH LETTER YAsBtHsGtHHqBERBER ACADEMY YAJqYAJsDtHtDuHrEYrAFsK
qTUAREG YAKqYAKHHsHqBERBER ACADEMY YAHqTUAREG YAHqYAHHsAsKHqTUAREG YAKHqYAQqTUAREG YAQqYIrAZH
qAHAGGAR YAZHqTUAREG YAZHqYALsMsNqTUAREG YAGNzNGqYAPrUrARtRsGHqTUAREG YAGHqAYER YAGHqYAStStHsTtH
sCHsTTsVsWsYsZqTAWELLEMET YAZqYAZZrErO<2D6F>jMODIFIER LETTER LABIALIZATION MARKjSEPARATOR MARK
<2D7F>jCONSONANT JOINERaETHIOPIC SYLLABLE LOAsMOAsROAsSOAtHOAsBOAsTOAsCOAsNOAtYOAsGLOTTAL OAsZOA
sDOAtDOAsJOAsTHOAsCHOAsPHOAtOAsGGWAvIvEEvE<2DA0>sSSAuUuIuAAuEEuEuO<2DA8>sCCAuUuIuAAuEEuEuO
<2DB0>sZZAuUuIuAAuEEuEuO<2DB8>sCCHAvUvIvAAvEEvEvO<2DC0>sQYAuUuIuAAuEEuEuO<2DC8>sKYAuUuIuAAuEEuEuO
<2DD0>sXYAuUuIuAAuEEuEuO<2DD8>sGYAuUuIuAAuEEuEuO<2DE0>aCOMBINING CYRILLIC LETTER BEzbVEzbGHEzbDE
zbZHEzcEzbKAzbELzcMzcNzbOzbPEzbERzcSzbTEzbHAzbTSEzbCHEzbSHAzdCHAzbFITAzbES-TEzbAzbIEzbDJERV
zbMONOGRAPH UKzbYATzcUzbIOTIFIED AzbLITTLE YUSzbBIG YUSzbIOTIFIED BIG YUS
aRIGHT ANGLE SUBSTITUTION MARKERmDOTTED SUBSTITUTION MARKERaLEFT SUBSTITUTION BRACKET
aRIGHT SUBSTITUTION BRACKETaLEFT DOTTED SUBSTITUTION BRACKETaRIGHT DOTTED SUBSTITUTION BRACKET
bAISED INTERPOLATION MARKERhDOTTED INTERPOLATION MARKERaDOTTED TRANSPOSITION MARKER
aLEFT TRANSPOSITION BRACKETaRIGHT TRANSPOSITION BRACKETbAISED SQUAREaLEFT RAISED OMISSION BRACKET
aRIGHT RAISED OMISSION BRACKETaEDITORIAL CORONISaPARAGRAPHOSaFORKED PARAGRAPHOS
aREVERSED FORKED PARAGRAPHOSaHYPODIASTOLEaDOTTED OBELOScWNWARDS ANCORAaUPWARDS ANCORA
aDOTTED RIGHT-POINTING ANGLEcUBLE OBLIQUE HYPHENaINVERTED INTERROBANGaPALM BRANCH
aHYPHEN WITH DIAERESISaTILDE WITH RING ABOVEaLEFT LOW PARAPHRASE BRACKET
aRIGHT LOW PARAPHRASE BRACKETaTILDE WITH DOT ABOVEpBELOWaLEFT VERTICAL BAR WITH QUILL
aRIGHT VERTICAL BAR WITH QUILLaTOP LEFT HALF BRACKETeRIGHT HALF BRACKETaBOTTOM LEFT HALF BRACKET
hRIGHT HALF BRACKETaLEFT SIDEWAYS U BRACKETaRIGHT SIDEWAYS U BRACKETaLEFT DOUBLE PARENTHESIS
aRIGHT DOUBLE PARENTHESISaTWO DOTS OVER ONE DOT PUNCTUATIONaONE DOT OVER TWO DOTS PUNCTUATION
aSQUARED FOUR DOT PUNCTUATIONaFIVE DOT MARKaREVERSED QUESTION MARKaVERTICAL TILDEaRING POINT
aWORD SEPARATOR MIDDLE DOTaTURNED COMMAaRAISED DOThCOMMAaTURNED SEMICOLONaDAGGER WITH LEFT GUARD
mRIGHT GUARDaTURNED DAGGERbOP HALF SECTION SIGNbWO-EM DASHbHREE-EM DASHaSTENOGRAPHIC FULL STOP
aVERTICAL SIX DOTSaWIGGLY VERTICAL LINEaCAPITULUMaDOUBLE HYPHENaREVERSED COMMA
aDOUBLE LOW-REVERSED-9 QUOTATION MARKbASH WITH LEFT UPTURNbOUBLE SUSPENSION MARK
aINVERTED LOW KAVYKAt WITH KAVYKA ABOVEaLOW KAVYKAk WITH DOTaDOUBLE STACKED COMMAcTTED SOLIDUS
aTRIPLE DAGGERaMEDIEVAL COMMAaPARAGRAPHUS MARKbUNCTUS ELEVATUS MARKaCORNISH VERSE DIVIDER
bROSS PATTY WITH RIGHT CROSSBARrLEFT CROSSBARaTIRONIAN SIGN CAPITAL ETaMEDIEVAL EXCLAMATION MARK
jQUESTION MARKaLEFT SQUARE BRACKET WITH STROKEaRIGHT SQUARE BRACKET WITH STROKE
aLEFT SQUARE BRACKET WITH DOUBLE STROKEaRIGHT SQUARE BRACKET WITH DOUBLE STROKE
aTOP HALF LEFT PARENTHESISjRIGHT PARENTHESISaBOTTOM HALF LEFT PARENTHESISmRIGHT PARENTHESIS
aOBLIQUE HYPHEN<2E80>aCJK RADICAL REPEATmCLIFFmSECOND ONEtTWOuHREEmPERSONmBOXmTABLEmKNIFE ONEsTWO
mDIVINATIONmSEALnMALL ONEsTWOmLAME ONErTWOsHREErFOURmSNAKEmTHREADmSNOUT ONEsTWOmHEART ONEsTWOnAND
mRAP<2E9B>mCHOKEmSUNmMOONmDEATHmMOTHERmCIVILIANmWATER ONEsTWOmFIREmPAW ONEqTWO
mSIMPLIFIED HALF TREE TRUNKmCOWmDOGmJADEmBOLT OF CLOTHmEYEmSPIRIT ONEtTWOmBAMBOOmSILK
mC-SIMPLIFIED SILKmNET ONEqTWOrHREEqFOURmMESHmSHEEPmRAMmEWEmOLDmBRUSH ONEsTWOmMEATnORTARmGRASS ONE
sTWOtHREEmTIGERmCLOTHESmWEST ONErTWOmC-SIMPLIFIED SEEmSIMPLIFIED HORNmHORNmC-SIMPLIFIED SPEECH
zbHELLmFOOTmC-SIMPLIFIED CARTmSIMPLIFIED WALKmWALK ONErTWOmCITYn-SIMPLIFIED GOLDmLONG ONErTWO
mC-SIMPLIFIED LONGzGATEmMOUND ONEsTWOmRAINmBLUEmC-SIMPLIFIED TANNED LEATHERzLEAFzWINDzFLYmEAT ONE
qTWOrHREEmC-SIMPLIFIED EATmHEADmC-SIMPLIFIED HORSEmBONEmGHOSTmC-SIMPLIFIED FISHzBIRDzSALT
mSIMPLIFIED WHEATxYELLOWmC-SIMPLIFIED FROGmJ-SIMPLIFIED EVENmC-SIMPLIFIED EVENmJ-SIMPLIFIED TOOTH
mC-SIMPLIFIED TOOTHmJ-SIMPLIFIED DRAGONmC-SIMPLIFIED DRAGONmTURTLEmJ-SIMPLIFIED TURTLE
mC-SIMPLIFIED TURTLE<2F00>aKANGXI RADICAL ONEpLINEpDOTpSLASHqECONDpHOOKpTWOpLIDpMANpLEGSpENTER
qIGHTpDOWN BOXpCOVERpICEpTABLEpOPEN BOXpKNIFEpPOWERpWRAPpSPOONpRIGHT OPEN BOXpHIDING ENCLOSUREpTEN
pDIVINATIONpSEALpCLIFFpPRIVATEpAGAINpMOUTHpENCLOSUREqARTHpSCHOLARpGOr SLOWLYpEVENINGpBIGpWOMAN
pCHILDpROOFpINCHpSMALLpLAMEpCORPSEpSPROUTpMOUNTAINpRIVERpWORKpONESELFpTURBANpDRYpSHORT THREAD
pDOTTED CLIFFpLONG STRIDEpTWO HANDSpSHOOTpBOWpSNOUTpBRISTLEpSTEPpHEARTqALBERDpDOORpHANDpBRANCHpRAP
pSCRIPTpDIPPERpAXEpSQUAREpNOTpSUNqAYpMOONpTREEpLACKpSTOPpDEATHpWEAPONpDO NOTpCOMPAREpFURpCLAN
pSTEAMpWATERpFIREpCLAWpFATHERpDOUBLE XpHALF TREE TRUNKpSLICEpFANGpCOWpDOGpPROFOUNDpJADEpMELONpTILE
pSWEETpLIFEpUSEpFIELDpBOLT OF CLOTHpSICKNESSpDOTTED TENTpWHITEpSKINpDISHpEYEpSPEARpARROWpSTONE
qPIRITpTRACKpGRAINpCAVEpSTANDpBAMBOOpRICEpSILKpJARpNETpSHEEPpFEATHERpOLDpANDpPLOWpEARpBRUSHpMEAT
qINISTERpSELFpARRIVEpMORTARpTONGUEpOPPOSEpBOATpSTOPPINGpCOLORpGRASSpTIGERpINSECTpBLOOD
pWALK ENCLOSUREpCLOTHESpWESTpSEEpHORNpSPEECHpVALLEYpBEANpPIGpBADGERpSHELLpREDqUNpFOOTpBODYpCART
pBITTERpMORNINGpWALKpCITYpWINEpDISTINGUISHpVILLAGEpGOLDpLONGpGATEpMOUNDpSLAVEqHORT TAILED BIRD
pRAINpBLUEpWRONGpFACEpLEATHERpTANNED LEATHERpLEEKpSOUNDpLEAFpWINDpFLYpEATpHEADpFRAGRANTpHORSEpBONE
pTALLpHAIRpFIGHTpSACRIFICIAL WINEpCAULDRONpGHOSTpFISHpBIRDpSALTpDEERpWHEATpHEMPpYELLOWpMILLET
pBLACKpEMBROIDERYpFROGpTRIPODpDRUMpRATpNOSEpEVENpTOOTHpDRAGONpTURTLEpFLUTE
<2FF0>aIDEOGRAPHIC DESCRIPTION CHARACTER LEFT TO RIGHTzjABOVE TO BELOWzjLEFT TO MIDDLE AND RIGHT
zjABOVE TO MIDDLE AND BELOWzjFULL SURROUNDzjSURROUND FROM ABOVEzxBELOWzxLEFTzxUPPER LEFTzzeRIGHT
zxLOWER LEFTzjOVERLAID"

end Name
end Text
end WorkflowKit
