/-
# Names of characters from U+12000 to U+1CFFF

The names are written as `WorkflowKit.Text.Name` says.
-/

namespace WorkflowKit
namespace Text
namespace Name

/-- The names of the characters from U+12000 to U+1CFFF. -/
def namesFrom12000 : String := "
<12000>aCUNEIFORM SIGN Aq TIMES AxBADxGAN2 TENUxHAxIGIxLAGAR GUNUxMUSHxSAGq2qBr TIMES ASH2
yDUN3 GUNUyGALzbN2 TENUyHAyIGI GUNUzMINyLAGABySHESHyU PLUS U PLUS UsGUNUr2s TIMES BALAGzGAN2 TENU
zME PLUS ENzSHA3zTAK4qDqKr TIMES ERIN2ySHITA PLUS GISHqLr TIMES ALyDIM2yGISHyHAyKAD3zIySHEyUSHrAN
rEPHqMARt TIMES SHEqNr OVER ANsTHREE TIMESsPLUS NAGA OPPOSING AN PLUS NAGAzdSQUAREDrSHEqPINqRAD
t TIMES KURrKABqSAL2rHs ZIDA TENUtKABA TENUtOVER ASH TUG2 OVER TUG2 TUG2 OVER TUG2 PAPzdOVER ASH
zl CROSSING ASH OVER ASH OVER ASHs2sGABpBArDrG3rHAR2rLs OVER BALsAGrRsA2qIr TIMES AyGARyIGI GUNUqU
r OVER BU ABzbUNsCROSSING BUrLUGu OVER BULUGrRs2pDArGs KISIM5 TIMES A PLUS MASHziMARzhBALAGziIzhGA
zj PLUS MASHziIzjR2ziUDzhHAzhIRzj PLUS LUzhKAKzhLAziUzj PLUS MASH2zjMzhNEzhPAP PLUS PAPzhSIzhTAK4
zhU2 PLUS GIR2ziSHrMrRsA3t4qIrBrMs TIMES SHEs2rNs KASKAL U GUNU DISHrSHqUr OVER DUsGUNUsSHESHIGrB
s TIMES ESH2s2rGsUDrHrNs3t GUNUy GUNUs4rR2pEq TIMES PAPrOVER E NUN OVER NUNq2
r TIMES A PLUS HA PLUS DAyGARyMIySALzHEyUqDINqGIRqLqNr TIMES GAN2zd TENUyMEsCROSSING EN
sOPPOSING ENsSQUAREDqRENrIN2qSH2qZENt TIMES Azc PLUS LALzl TIMES LALzcNzbBADzbDUN3 GUNUzk GUNUzbHA
zd GUNUzbIGI GUNUzbKASKALzh SQUAREDzcU3zbLAzdL TIMES LALzcIzcUzbU2zcDpGAr GUNUr2
s TIMES A PLUS DA PLUS HAzhHAzhIGIzbB2 TENU PLUS TABzbNzbSHzd2 PLUS GALzBADzcR PLUS RAzbUR
zd PLUS RAzDAzbIzcM TIMES SHEzbUBzELzc PLUS LAzbNzc TIMES GAN2 TENUzGAN2 TENUzcRzbIzc4zd PLUS A
zcR2 PLUS SUzHA PLUS LU PLUS ESH2zcLzd PLUS LAzbI PLUS LIzbUB2zIGI GUNUzbSH PLUS HU PLUS ASHzKAK
zcSKALzbIDzd PLUS LALzbU3 PLUS ANzLAzME PLUS ENzbIzNUNzd OVER NUNzPAzSALzcRzbHEzd PLUS TURzcIDzbUM
zTAK4zUzbDzc PLUS DUtOVER GA2rBAt CROSSING GABArDs OVER GAD GAR OVER GARrL
s GAD OVER GAD GAR OVER GARsAMrMrNs2t TENUuOVER GAN2uCROSSING GAN2rRs3rSHANqESHTINw TIMES KURqI
r TIMES EyUsCROSSING GIr4s OVER GI4tCROSSING GI4rDIMrR2t GUNUs3t TIMES A PLUS IGIzbGAN2 TENUzbIGI
zbLU PLUS IGIzbPArSALsHt CROSSING GISHuTIMES BADzbTAK4vENUqUr CROSSING GUr2s TIMES KAK
zd TIMES IGI GUNUzNUNzSAL PLUS TUG2tGUNUrDs TIMES A PLUS KURzKURtOVER GUD LUGALrLrMs TIMES SHErRs7
sUNtSHpHAr TENUsGUNUrLqIr TIMES ASHzc2yBADyDISHyGADyKINyNUNySHEyUqUrB2t TIMES ANzbHALzbKASKAL
zbLISHzbUDrL2pIq AqBqDIMt OVER IDIM BURzfSQUAREDqGrIs DIBtRItOVER IGI SHIR OVER SHIR UD OVER UD
tGUNUqLr TIMES GAN2 TENUr2qMr TIMES TAK4sCROSSING IMsOPPOSING IMsSQUAREDrINqNqRqSHpKAr TIMES AzD
zb PLUS KU3zSH2yBADzbLAGzbRzIyERIN2zSH2yGAzbLzbN2 TENUzbRzc PLUS SHA3 PLUS AzIzbR2zbSH PLUS SAR
zeCROSSING GISHzUzbR7yIGIzMyKAKzIzbDyLIzUyMEzb PLUS DUzhGIzhTEzIzb PLUS NUNUZyNEzUNyPIyRUySAzbRzHA
zbEzbIDzbUzIGzUHURyTARyUz2zDzMUM TIMES PAzSHyZIr2s CROSSING KA2rBrD2s3s4s5t OVER KAD5rK
s TIMES IGI GUNUrLs TIMES BADtCROSSING KALrM2s4rSKALv LAGAB TIMES U OVER LAGAB TIMES U
wOVER KASKAL LAGAB TIMES U OVER LAGAB TIMES UqESH2qIr TIMES BADyUzDrDrNrSALsHsIM5v OVER KISIM5qU
r OVER HI TIMES ASH2 KU OVER HI TIMES ASH2r3r4s VARIANT FORMr7rLs GUNUrNrRs OPPOSING KURrSHU2
qWU318pLArGABu TIMES Azd PLUS DA PLUS HAzjGARzjLALzdLzdNzdSH ZIDA TENUzcBADzdIzcDARzcENzcGAzeRzdUD
zf PLUS GUDzcHAzeLzdI TIMES NUNzcIGI GUNUzdMze PLUS HAzkLUzcKIzeNzdU3zeLzf PLUS HI PLUS AzcLAGAB
zdISHzdUzeLzcMEze PLUS ENzdUSHzcNEzcSHE PLUS SUMzeITA PLUS GISH PLUS ERIN2zsTENUzeU2zg PLUS SHU2
zdUMzcTAGzeK4zdE PLUS A PLUS SU PLUS NAzcUzd PLUS AzjU PLUS Uzd2 PLUS ASHzdDzdSHvSQUAREDtR
u TIMES SHEzf PLUS SUMvGUNUz OVER LAGAR GUNU SHErHSHUrLs TIMES LALrMs TIMES KURzd PLUS RUqIrLrMMU2
rSHqUr TIMES BADr2s TIMES ALzBADzESH2ze TENUzGAN2 TENUzHI TIMES BADzIMzKAD2zd3ze PLUS ASHzbI
zLA PLUS ASHzcGABzME PLUS ENzNEzbUzSI PLUS ASHzcK2 PLUS BUzTUG2uENUtCROSSING LU2tOPPOSING LU2
tSQUAREDuHESHIGr3rGALu OVER LUGALwPPOSING LUGALvSHESHIGrHrLrMs OVER LUMzc GAR OVER GARpMA
r TIMES TAK4sGUNUr2rHrRrSHt2qErSqIrNqUr OVER MUrGs GUNUrNSUBrRGU2rSHt TIMES AzbKURzbZAuOVER MUSH
ze TIMES A PLUS NAuCROSSING MUSHt3u TIMES Azd PLUS DIzcDIvGUNUpNAr2rGAt INVERTEDuTIMES SHU TENU
uOPPOSING NAGAtRrM NUTILLUrMs2qEr TIMES AyUDsSHESHIGqIr TIMES Er2rMs TIMES GAN2 TENU
zcR PLUS GAN2 TENUrNDA2v TIMES ANzeSHzg PLUS ASHzdGUDzdME PLUS GAN2 TENUzdNEzeUNzdSHEzg PLUS A AN
znSHzp PLUS ASHzdU2 PLUS ASHzeSHrSAGqUr11rNs LAGAR TIMES GARzgMASHzgSALzj OVER NUN LAGAR TIMES SAL
zgUSHtTENUtOVER NUNtCROSSING NUNzg LAGAR OVER LAGARsUZu AB2 TIMES ASHGABzgBIzgDUGzgGUDzgIGI GUNU
zgKAD3zgLAzgNEzgSILA3zgU2vKISIM5 TIMES BIzl UpPArDrNrPqESH2qIr TIMES AzByBIzUyEyIzByUz2
sCROSSING PIrRIGu TIMES KALzcUDzcZAvOPPOSING PIRIGpRArBqIqUpSArG NUTILLUrGs TIMES AzDUzcBzHAzKAK
zbURzLUMzMIzNUNzSALzbHIDzTABzU2zbBzbMzbRzbSHtOVER SAGtGUNUrLs LAGAB TIMES ASH2rNGA2rRqHAs3
t TIMES AzbBADzbGISHzbNEzbSHU2zbTURzbUzc PLUS As6sB6sR2rEs HUtOVER SHE GAD OVER GAD GAR OVER GAR
zdTAB OVER TAB GAR OVER GARsG9sNsSHu2uLAMrIDt TIMES AzbIMsMt TIMES AzbBALzcULUGzbDINzbGARzbIGI
ze GUNUzbKUSHU2zbLULzbMUGzbSALsNIGsRt TENUuOVER SHIR BUR OVER BURsTArUs OVER INVERTED SHUs2sBURqI
r GUNUrGs4t OVER SIG4 SHU2rK2rLA3qUr OVER SUrDs2rHURrMsASHrRs9pTAr ASTERISKsTIMES HIyMIsGUNUrB
s OVER TAB NI OVER NI DISH OVER DISHtSQUAREDrGs TIMES BIzGUDzSHEzcUzTUG2zUDrK4rRqEr GUNUqIr TENUrL
rRs TIMES TAK4tOVER TIRzc GAD OVER GAD GAR OVER GARqUrG2rKrMrRs OVER TUR ZA OVER ZApUq GUDrU U
rOVER U PA OVER PA GAR OVER GARySUR OVER SURyU REVERSED OVER U REVERSEDq2qBqDr KUSHU2sTIMES BADyMI
yU PLUS U PLUS Uzo GUNUsGUNUsSHESHIGz TIMES BADrUGqMr TIMES LAGAByME PLUS DAySHA3yUrBINrUM
t TIMES KASKALzbPAqNr GUNUqRr CROSSING URsSHESHIGr2s TIMES A PLUS HAzhNAzbLzHAzNUNzU2zc PLUS ASH
ziBIr4rIs3rUs TIMES AzbSHGABzBARzDUNzGAzcLzcN2 TENUzcRzbUzHAzIGIzbMzbSHzKIzLUMzMINzPAzSHEzbIG4zTU
zU PLUS GUDzbDzbRUDAsDAu TIMES UqSHs TIMES AzKUzcRzTAK4sXs2sUMXqTUKIqZ3s TIMES KASKALrUpZAr TENU
sSQUARED TIMES KURrGrMXqE2qIr OVER ZIr3rBs KABA TENUrGrZ2qUr5s TIMES ArBURrMpKAP ELAMITE
pAB TIMES NUNr2 TIMES AqMAR TIMES KUGpDAG KISIM5 TIMES U2 PLUS MASHs3qISH PLUS SHUqUB TIMES SHE
pEZEN TIMES GUDzbSHEpGA2 TIMES AN PLUS KAK PLUS AzbSH2qE22qIGpHUSHpKA TIMES ANSHEzSH3yGISHzUD
yHI TIMES ASH2yLUMyPAySHULyTUyUR2pLAGAB TIMES GIqU2 SHESHIG TIMES BADtTIMES ESH2 PLUS LALzSHUpMESH
qUSH3 TIMES ZApNA4qINs9sDA2 TIMES BALzdGIqU11 ROTATED NINETY DEGREESpPESH2 ASTERISKqIR2
pSAG TIMES IGI GUNUpTI2pUM TIMES MEq U<12400>kNUMERIC SIGN TWO ASHyHREE ASHxFOUR ASHyIVE ASH
xSIX ASHyEVEN ASHxEIGHT ASHxNINE ASHxTHREE DISHxFOUR DISHyIVE DISHxSIX DISHyEVEN DISHxEIGHT DISH
xNINE DISHxFOUR UyIVE UxSIX UyEVEN UxEIGHT UxNINE UxONE GESH2xTWO GESH2yHREE GESH2xFOUR GESH2
yIVE GESH2xSIX GESH2yEVEN GESH2xEIGHT GESH2xNINE GESH2xONE GESHUxTWO GESHUyHREE GESHUxFOUR GESHU
yIVE GESHUxTWO SHAR2yHREE SHAR2zj VARIANT FORMxFOUR SHAR2yIVE SHAR2xSIX SHAR2yEVEN SHAR2
xEIGHT SHAR2xNINE SHAR2xONE SHARUxTWO SHARUyHREE SHARUzj VARIANT FORMxFOUR SHARUyIVE SHARU
xSHAR2 TIMES GAL PLUS DISHztMINxONE BURUxTWO BURUyHREE BURUzi VARIANT FORMxFOUR BURUyIVE BURU
xTHREE VARIANT FORM ESH16zu21xFOUR VARIANT FORM LIMMUzv4zv AzwBxSIX VARIANT FORM ASH9
yEVEN VARIANT FORM IMIN3zv AzwBxEIGHT VARIANT FORM USSUzv3xNINE VARIANT FORM ILIMMUzw3zw4zw A
xTWO ASH TENUyHREE ASH TENUxFOUR ASH TENUyIVE ASH TENUxSIX ASH TENUxONE BAN2xTWO BAN2yHREE BAN2
xFOUR BAN2zh VARIANT FORMyIVE BAN2zh VARIANT FORMxNIGIDAMINzeESHxONE ESHE3xTWO ESHE3
xONE THIRD DISHxTWO THIRDS DISHxFIVE SIXTHS DISHxONE THIRD VARIANT FORM A
xTWO THIRDS VARIANT FORM AxONE EIGHTH ASHzcQUARTER ASHyLD ASSYRIAN ONE SIXTHzpQUARTER
yNE QUARTER GURzcHALF GURxELAMITE ONE THIRDzgTWO THIRDSzgFORTYzhIFTYxFOUR U VARIANT FORM
yIVE U VARIANT FORMxSIX U VARIANT FORMyEVEN U VARIANT FORMxEIGHT U VARIANT FORM
xNINE U VARIANT FORM<12470>kPUNCTUATION SIGN OLD ASSYRIAN WORD DIVIDERzcVERTICAL COLON
zcDIAGONAL COLONzlTRICOLONzlQUADCOLON<12480>kSIGN AB TIMES NUN TENUySHU2qD TIMES ESH2
pBAD TIMES DISH TENUrHAR2 TIMES AB2zdNIzdZAqU OVER BU TIMES NA2pDA TIMES TAK4rG TIMES KUR
qIM TIMES IGIzU U Us2 TIMES UDqUG TIMES ANSHEzbSHzd AT LEFTzDINzbUNzERIN2zGAzbIzcR2 GUNUzcSHzHAzbI
zIGI GUNUzKASKALzbURzcSHU2zg PLUS KASKALzLAK-020zcMzd TIMES KURzbUH PLUS GISHzMASHzbESzbIzNIzPI
zSHEzbI GUNUpE2 TIMES KURyPAPqRIN2 XqSH2 CROSSING ESH2qZEN SHESHIG TIMES ASHzjHIzjIGI GUNUzjLAzlL
zjMEzlSzjSUuTIMES SUpGA2 TIMES BAHAR2zDIM GUNUzbUG TIMES IGI GUNUzkKASKALzERENzGAzcR PLUS DIzjNE
zHA PLUS AzKUSHU2 PLUS KASKALzLAMzd TIMES KURzbUHzMUSHzNEzc PLUS E2ziGIzSHIMzZIZ2
rBA ROTATED NINETY DEGREESqESHTIN TIMES UqISH TIMES GISH CROSSING GISHqU2 TIMES IGI GUNU
rD PLUS GISH TIMES TAK4pHA TENU GUNUqI TIMES ASH OVER HI TIMES ASHpKA TIMES BUyKAyU U UzR
pLAGAB TIMES ZU OVER ZUrK-003u21v5u30u50v1u62u79 OVER LAK-079 GUNUu80v1 OVER LAK-081u92t130u42t210
v9u20v5v8u38u65v6t343v7v8u83v4u90t441v9w TIMES GUzeIGIzePAP PLUS LU3znPAP PLUS LU3zeU2 PLUS BAu50
v7u70u83u90v2v3v5t550t608u17w TIMES ASHzeBADzeDUN3 GUNU GUNUzeKU3zeLAzeTARzfEzeU2zfDzfRUDAu36u48
w TIMES DUBzeGAzeIGIzh GUNUzeNIzePAP PLUS PAP PLUS LU3zeSHESH PLUS KIzeUDzfRUDAt724u49
qU2 GUNU TIMES ASHtTIMES DISHzHALzPAPzd PLUS PAP PLUS LU3zTAK4pMI PLUS ZA7qUSH OVER MUSH TIMES GA
zlKAKpNINDA2 TIMES DIM GUNUzdGISHzeULzdHIzdKESH2zdLAK-050zdMASHzdPAP PLUS PAPzdUze PLUS UzeRUDA
pSAG GUNU TIMES HAtTIMES ENzSHE AT LEFTzTAK4qHA6 TENUrE OVER SHEtPLUS HUB2yNAM2ySAR
rU2 PLUS DUG TIMES NIzE2 TIMES ANqI TIMES TAK4pTAK4 PLUS SAGqUM TIMES GAN2 TENUzTHREE DISH
pUR2 INVERTEDtTIMES UDrU TIMES DARA3zLAK-668zbU3pZA7qU OVER ZU PLUS SARr5 TIMES THREE DISH TENU
<12F90>bYPRO-MINOAN SIGN CM001w2w4w5w6w7w8w9v10w1w2xBw3w5w7w9v21w3w4w5w6w7w8w9v30w3w4w5w6w7w8w9v40
w1w4w6w7w9v50w1w2w3w4w5w6w8w9v60w1w2w3w4w6w7w8w9v70w1w2w3w4w5xBw6w8w9v80w1w2w3w4w5w6w7w8w9v90w1w2
w4w5w6w7w8w9u100w1w2w3w4w5w7w8w9v10w2w4u301w2<13000>aEGYPTIAN HIEROGLYPH A001x2x3x4x5yAx6yAyBx7x8
x9w10x1x2x3x4yAx5x6x7yAx8x9w20x1x2x3x4x5x6x7x8x9w30x1x2yAx3x4x5x6x7x8x9w40yAx1x2yAx3yAx4x5yAx6x7x8
x9w50x1x2x3x4x5x6x7x8x9w60x1x2x3x4x5x6x7x8x9w70uB001x2x3x4x5yAx6x7x8x9uC001x2yAyByCx3x4x5x6x7x8x9
w10yAx1x2x3x4x5x6x7x8x9w20x1x2x3x4uD001x2x3x4x5x6x7x8yAx9w10x1x2x3x4x5x6x7x8x9w20x1x2x3x4x5x6x7yA
x8x9w30x1yAx2x3x4yAx5x6x7x8x9w40x1x2x3x4x5x6yAx7x8yAx9w50yAyByCyDyEyFyGyHyIx1x2yAx3x4yAx5x6x7x8x9
w60x1x2x3x4x5x6x7yAyByCyDyEyFyGyHuE001x2x3x4x5x6x7x8yAx9yAw10x1x2x3x4x5x6yAx7yAx8x9w20yAx1x2x3x4x5
x6x7x8yAx9w30x1x2x3x4yAx6x7x8uF001yAx2x3x4x5x6x7x8x9w10x1x2x3yAx4x5x6x7x8x9w20x1yAx2x3x4x5x6x7x8x9
w30x1yAx2x3x4x5x6x7yAx8yAx9w40x1x2x3x4x5yAx6yAx7yAx8x9w50x1yAyByCx2x3uG001x2x3x4x5x6yAx7yAyBx8x9
w10x1yAx2x3x4x5x6x7x8x9w20yAx1x2x3x4x5x6yAx7x8x9w30x1x2x3x4x5x6yAx7yAx8x9w40x1x2x3yAx4x5yAx6x7x8x9
w50x1x2x3x4uH001x2x3x4x5x6yAx7x8uI001x2x3x4x5yAx6x7x8x9yAw10yAx1yAx2x3x4x5uK001x2x3x4x5x6x7x8uL001
x2yAx3x4x5x6yAx7x8uM001yAyBx2x3yAx4x5x6x7x8x9w10yAx1x2yAyByCyDyEyFyGyHx3x4x5yAx6yAx7yAx8x9w20x1x2
yAx3x4yAx5x6x7x8yAx9w30x1yAx2x3yAyBx4x5x6x7x8x9w40yAx1x2x3x4uN001x2x3x4x5x6x7x8x9w10x1x2x3x4x5x6x7
x8yAyBx9w20x1x2x3x4x5yAx6x7x8x9w30x1x2x3yAx4yAx5yAx6x7yAx8x9w40x1x2vL001y2y3y4y5zAy6y7y8y9x10y1y2
y3y4y5y6y7zAy8y9x20vU001y2y3y4y5y6y7y8y9x10zAy1zAy2y3y4y5y6y7y8zAy9x20y1y2zAuO001yAx2x3x4x5yAx6yA
yByCyDyEyFx7x8x9w10yAyByCx1x2x3x4x5x6x7x8x9yAw20yAx1x2x3x4yAx5yAx6x7x8x9yAw30yAx1x2x3yAx4x5x6yAyB
yCyDx7x8x9w40x1x2x3x4x5x6x7x8x9w50yAyBx1uP001yAx2x3yAx4x5x6x7x8x9w10x1uQ001x2x3x4x5x6x7uR001x2yAx3
yAyBx4x5x6x7x8x9w10yAx1x2x3x4x5x6yAx7x8x9w20x1x2x3x4x5x6x7x8x9uS001x2yAx3x4x5x6yAx7x8x9w10x1x2x3x4
yAyBx5x6x7yAx8x9w20x1x2x3x4x5x6yAyBx7x8x9w30x1x2x3x4x5yAx6x7x8x9w40x1x2x3x4x5x6uT001x2x3yAx4x5x6x7
yAx8yAx9yAw10x1yAx2x3x4x5x6yAx7x8x9w20x1x2x3x4x5x6x7x8x9w30x1x2yAx3yAx4x5x6uU001x2x3x4x5x6yAyBx7x8
x9w10x1x2x3x4x5x6x7x8x9w20x1x2x3yAx4x5x6x7x8x9yAw30x1x2yAx3x4x5x6x7x8x9w40x1x2uV001yAyByCyDyEyFyG
yHyIx2yAx3x4x5x6x7yAyBx8x9w10x1yAyByCx2yAyBx3x4x5x6x7x8x9w20yAyByCyDyEyFyGyHyIyJyKyLx1x2x3yAx4x5x6
x7x8yAx9yAw30yAx1yAx2x3yAx4x5x6x7yAx8x9w40yAuW001x2x3yAx4x5x6x7x8x9yAw10yAx1x2x3x4yAx5x6x7yAx8yAx9
w20x1x2x3x4yAx5uX001x2x3x4yAyBx5x6yAx7x8yAuY001yAx2x3x4x5x6x7x8uZ001x2yAyByCyDx3yAyBx4yAx5yAx6x7x8
x9w10x1x2x3x4x5yAyByCyDyEyFyGyHyIx6yAyByCyDyEyFyGyHuAA001y2y3y4y5y6y7zAzBy8y9x10y1y2y3y4y5y6y7y8y9
x20y1y2y3y4y5y6y7y8y9x30y1y2<13430>uVERTICAL JOINERuHORIZONTAL JOINERuINSERT AT TOP START
zfBOTTOM STARTzfTOP ENDzfBOTTOM ENDuOVERLAY MIDDLEuBEGIN SEGMENTuEND SEGMENT
<14400>aANATOLIAN HIEROGLYPH A001y2y3y4y5y6y7y8y9x10zAy1y2y3y4y5y6y7y8y9x20y1y2y3y4y5y6zAy7y8y9x30
y1y2y3y4y5y6y7y8y9zAx40y1zAy2y3y4y5zAy6zAzBy7y8y9x50y1y2y3y4y5y6y7y8y9x60y1y2y3y4y5y6zAzBzCy7y8y9
x70y1y2y3y4y5y6y7y8y9x80y1y2y3y4y5y6y7y8y9x90y1y2y3y4y5y6y7zAy8zAy9w100zAy1zAy2zAy3y4zAzBzCy5zAzB
y6y7zAzBzCy8y9x10zAzBy1y2y3y4y5zAy6y7y8y9x20y1y2y3y4y5zAy6y7y8y9x30y1y2y3y4y5zAy6y7y8y9x40y1y2y3y4
y5y6y7y8y9x50y1y2y3y4y5y6y7y8y9x60y1y2y3y4y5y6y7y8y9x70y1y2y3y4y5y6y7y8y9x80y1y2y3y4y5y6y7y8y9x90
y1y2y3y4y5y6y7y8y9w200y1y2zAzBy3y4y5y6y7zAy8y9zAx10y1y2y3y4y5zAy6zAy7y8y9x20y1y2y3y4y5y6y7zAy8y9
x30y1y2y3y4y5y6y7y8y9x40y1y2y3y4y5y6y7y8y9x50y1y2y3y4y5y6y7y8y9x60y1y2y3y4y5y6y7zAy8y9x70y1y2y3y4
y5y6y7y8y9x80y1y2y3y4y5y6y7y8y9zAx90y1y2y3y4zAy5y6y7y8y9zAw300y1y2y3y4y5y6y7y8y9zAx10y1y2y3y4y5y6
y7y8y9x20y1y2y3y4y5y6y7y8y9zAx30y1y2AzBzCy3y4y5y6zAzBzCy7y8y9x40y1y2y3y4y5y6y7y8y9x50y1y2y3y4y5y6
y7y8y9zAx60y1y2y3y4zAy5y6y7y8zAy9x70y1zAy2y3y4y5y6y7y8y9x80y1zAy2y3 RA OR RIzAy4y5y6zAy7y8y9x90y1
y2y3 EIGHTy4y5y6y7y8y9w400y1y2y3y4y5y6y7y8y9x10 BEGIN LOGOGRAM MARKzA END LOGOGRAM MARKy1y2y3y4y5
y6y7y8y9x20y1y2y3y4y5y6y7y8y9x30y1y2y3y4y5y6y7y8y9x40y1y2y3y4y5y6y7y8y9x50zAy1y2y3y4y5y6y7zAy8y9
x60y1y2y3y4y5y6y7y8y9x70y1y2y3y4y5y6y7y8y9x80y1y2y3y4y5y6y7y8y9x90y1y2y3y4y5y6y7w501y2y3y4y5y6y7y8
y9x10y1y2y3y4y5y6y7y8y9x20y1y2y3y4y5y6y7y8y9x30<16800>aBAMUM LETTER PHASE-A NGKUE MFONvGBIEE FON
vPON MFON PIPAEMGBIEEzlBAvNAA MFONvSHUENSHUETvTITA MFONvNZA MFONvSHINDA PA NJI
vPON PA NJI PIPAEMGBIEEznBAvMAEMBGBIEEvTU MAEMBAvNGANGUvMAEMVEUXxNSUAEwVEUAENGAMvSEUNYAMvNTOQPEN
vKEUKEUTNDAvNKINDIvSUUvNGKUENZEUMvLAPAQwET KUTvNTAP MFAAvMAEKEUPvPASHAEvGHEUAERAEvPAMSHAE
vMON NGGEUAETvNZUN MEUTvU YUQ NAEvGHEUAEGHEUAEvNTAP NTAAvSISAvMGBASAwEUNJOMNDEUQwOOMPUQvKAFA
vPA LEERAEWAvNDA LEERAEWAvPETvMAEMKPENvNIKAvPUPvTUAEPvLUAEPvSONJAMvTEUTEUWENvMAENYIvKET
vNDAANGGEUAETvKUOQvMOOMEUTvSHUMvLOMMAEvFIRIvROMvKPOQvSOQvMAP PIEETvSHIRAEvNTAPvSHOQ NSHUT YUM
vNYIT MONGKEUAEQvPAARAEvNKAARAEvUNKNOWNvNGGENvMAESIvNJAMvMBANYIvNYETvTEUAENvSOTvPAAMvNSHIEEvMAEM
vNYIvKAQvNSHAvVEEvLUvNENwAQvMBAQtB NSHUETvTU MAEMGBIEEvSIEEwET TUvLOM NTEUMvMBA MAELEEvKIEEM
vYEURAEvMBAARAEvKAMvPEESHIvYAFU LEERAEWAvLAM NSHUT NYAMvNTIEE SHEUOQwDU NJAAvGHEUGHEUAEMvPIT
vTU NSIEEvSHET NJAQyUAEQTUvMFON TEUAEQwBIT MBAAKETvNYI NTEUMvKEUPUQvGHEUGHENvKEUYEUXvLAANAEvPARUM
vVEUMvNGKINDI MVOPxGEU MBUvWUAETvSAKEUAEvTAAMvMEUQvNGGUOQzc LARGEvMFIYAQvSUEvMBEURIwONTIEEN
vNYAEMAEvPUNGAAMvMEUT NGGEETvFEUXvMBUOQvFEEvKEUAEMvMA NJEUAENAzbUQAvLETvNGGAAMwSENvMAvKIQvNGOM
tC NGKUE MAEMBAwZAvYUMvWANGKUOQvNGGENwDEUAEREEwGKAQvGHARAEvMBEEKEETvGBAYIvNYIR MKPARAQ MEUN
wTU MBITvMBEUMvPIRIEENvNDOMBUvMBAA CABBAGE-TREEvKEUSHEUAEPvGHAPvKEUKAQvYU MUOMAEvNZEUMvMBUE
vNSEUAENvMBITvYEUQvKPARAQwAAvSEUXvNDIDAvTAASHAEvNJUEQvTITA YUEvSUAETvNGGUAEN NYAMvVEUXvNANSANAQ
vMA KEUAERIvNTAAwGGUONvLAPvMBIRIEENwGBASAQvNTEUNGBAvTEUTEUXvNGGUMvFUEvNDEUTwSAxHAQvBUNGvVEUAEPEN
vMBERAEvRUvNJAEMvLAMvTITUAEPvNSUOT NGOMwJEEEEvKETvNGGUvMAESIwBUAEMvLUvKUTvNJAMwGOMvWUPvNGGUEETwSOM
wTENvKUOP NKAARAEvNSUNwDAMvMA NSIEEvYAAvNDAPvSHUEQwETFONvMBIwAEMBAwBANYIvKEUSEUXvMBEUXvKEUM
vMBAA PICKETvYUWOQvNJEUXvMIEEwUAEvSHIQvKEN LAWzFATIGUEvNGAQwAQvLIQvPINwENvTETtD MBUOvWAPvNJIvMFON
vNJIEEvLIEEvNJEUTwSHEEwGGAAMAEwYAMvWUAENvNGKUNvSHEEvNGKAPvKEUAETMEUNvTEUTvSHEUAEvNJAPvSUEvKET
vYAEMMAEvKUOMvSAPvMFEUTvNDEUXvMALEERIwEUTvSEUAEQvYENvNJEUAEMvKEUOT MBUAEvNGKEURIvTUvGHAAvNGKYEE
vFEUFEUAETvNDEEvMGBOFUMvLEUAEPvNDONvMONIwGBEUNvPUUTvMGBIEEwFOvLUMvNSIEEPvMBAAvKWAETvNYETvTEUAEN
vSOTvYUWOQvKEUMvRAEMvTEEEEvNGKEUAEQvMFEUAEvNSIEETvKEUPvPIPwEUTAEvNYUEvLETvNGGAAMvMFIEEvNGGWAEN
vYUOMvPAPvYUOPvNDAMwTEUMvSUAEvKUNvNGGEUXxKIEEvTUOTvMEUNvKUQvNSUMvTEUNvMAENJETvNGGAPvLEUMvNGGUOM
wSHUTwJUEQvGHEUAEvKUvREN OLDvTAEwOQvNYIvRIIvLEEEEvMEEEEvMvSUUvMUvSHIIxEUXvKYEEvNUvSHUvNTEEvPEEvNI
vSHOQvPUQvMVOPvLOQvREN MUCHvTIvNTUUvMBAA SEVENvSAQvFAAtE NDAPvTOONvMBEUMvLAPvVOMvLOONvPAAvSOMvRAQ
vNSHUOPwDUNvPUAEvTAMvNGKAvKPEUXvWUOvSEEvNGGEUAETvPAAMvTOOvKUOPvLOMvNSHIEEwGOPvMAEMvNGKEUXxOQwSHUE
vRIMGBAvNJEUXvPEEMvSAAvNGGURAEvMGBAvGHEUXvNGKEUAEMwJAEMLIvMAPvLOOTvNGGEEEEwDIQvTAEN NTEUMvSETvPUM
vNDAA SOFTNESSwGGUAESHAE NYAMvYIEEvGHEUNvTUAEvYEUAEvPOvTUMAEvKEUAEvSUAENvTEUAEQvVEUAEvWEUXvLAAMvPU
vTAAQvGHAAMAEvNGEUREUTvSHEUAEQvMGBENwBEEvNZAQwKOMvGBETvTUMvKUETvYAPvNYI CLEAVERvYITvMFEUQvNDIAQ
vPIEEQvYUEQvLEUAEMvFUEvGBEUXvNGKUPvKETvMAEvNGKAAMIvGHETvFAvNTUMvPEUTvYEUMvNGGEUAEwYI BETWEENwZUQ
vPOONvMIEEvFUETvNAEvMUAEvGHEUAEvFU IvMVIvPUAQvNGKUMvKUTvPIETvNTAPvYEUAETvNGGUPvPA PEOPLEvFU CALL
wOMvNJEEvAvTOQvOvIvLAQvPA PLURALvTAAxQvNDAA MY HOUSEvSHIQvYEUXvNGUAEvYUAENwOQ SWIMMINGzCOVERwUQxN
vKEUXvPEUXvNJEE EPOCHvPUEvWUEvFEEvVEEvLUvMIvREUXwAEvNGUAETxAvSHOyQvFU REMEDYvNAvPIvLOQvKOvMENwAxQ
vTEUvKIvMONvTENvFAQvGHOMtF KAvUvKUvEEvREEvTAEvNYIvLAvRIIxEEvMEEEEvTAAvNDAAwJAEMvMvSUUwHIIwIwEUX
vKYEEwETvNUAEwUwJUAEvYOQvSHUvYAvNSHAvPEUXvNTEEvWUEvPEEvRUvNIvREUXvKENvNGKWAENxGAvSHOvPUAEvFOMvWA
vLIwOQvKOvMBENvRENvMAwOwBAAvTETvKPAvSAMBAvVUEQ<16A40>aMRO LETTER TAlNGIlYOlMIMlBAlDAlAlPHIlKHAI
lHAOlDAIlCHUlKEAAElOLlMAEMlNINlPAlOOlOlROlSHIlTHEAlEAlWAlElKOlLANmAlHAIlRIlTEK<16A60>eDIGIT ZERO
kONEkTWOlHREEkFOURlIVEkSIXlEVENkEIGHTkNINE<16A6E>fANDAfOUBLE DANDAaTANGSA LETTER OZpCpQpXoAZpCpQpX
oVZpCpQpXoEZpCpQpXoIZpCpQpXoUZpCpQpXoAWZqCqQqXoUIZqCqQqXoFINAL NGoLONG UEXoSHORT UEZuAWXoUECqZqQqX
pIUZrCrQrXoMZpCpQpXoKApHAoGAoNGAoSAoYAoWAoPAoNYAoPHAoBAoMAoNAoHAoLAoHTAoTAoDAoRAoNHAoSHAoCAoTSA
oGHAoHTTAoTHAoXAoFAoDHAoCHAoZA<16AC0>hDIGIT ZEROnONEnTWOoHREEnFOURoIVEnSIXoEVENnEIGHTnNINE
<16AD0>aBASSA VAH LETTER ENNIrKArSErFArMBErYIErGAHrDHIIrKPAHrJOrHWAHrWArZOrGBUrDOrCErUWUrTOrBArVU
rYEINrPArWADDArArOsOrUrEErErI<16AF0>kCOMBINING HIGH TONEuLOW TONEuMID TONEuLOW-MID TONE
uHIGH-LOW TONEkFULL STOP<16B00>aPAHAWH HMONG VOWEL KEEBwVuIBvVuAUBwVuUBvVuEBvVuAIBwVuOOBwVuAWBwV
uUABwVuOBvVuIABwVuABvVuWBvVuAABwVnCONSONANT VAUxNTSAUxLAUxHAUxNLAUxRAUxNKAUxQHAUxYAUxHLAUxMAUxCHAU
xNCHAUxHNAUxPLHAUxNTHAUyAUxAUxXAUxCAUnMARK CIM TUBwSOwKESxHAVwSUAMwHOMwTAUMnSIGN VOS THOM
xSHAB CEEBsCIM CHEEMsVOS THIABwFEEMsXYEEM NTXIVyRHOyTOVyFAIBsVOS SEEVsMEEJ SUABsVOS NRUAsIB YAM
sXAUSsCIM TSOV ROG<16B50>nDIGIT ZEROtONEtTWOuHREEtFOURuIVEtSIXuEVENtEIGHTtNINE<16B5B>nNUMBER TENS
uHUNDREDSuTEN THOUSANDSuMILLIONSuHUNDRED MILLIONSuTEN BILLIONSvRILLIONS<16B63>nSIGN VOS LUBsXYOO
sHLIsTHIRD-STAGE HLIsZWJ THAJsHNUBsNQIGsXIABsNTUJsAVsTXHEEJ CEEVsMEEJ TSEEBsTAUsLOSsMUS
sCIM HAIS LUS NTOG NTOGwCUAM TSHOOJwTXWVzb CHWVwPUB DAWBwNRES TOS<16B7D>nCLAN SIGN TSHEEJxYEEGxLIS
yAUJxXYOOJxKOOxHAWJxMUASxTHOJySABxPHABxKHABxHAMxVAJxFAJxYAJxTSWBxKWMxVWJ
<16E40>aMEDEFAIDRIN CAPITAL LETTER MzcSzcVzcWzcATIUzcZzcKPzcPzcTzcGzcFzcIzcKzcAzcJzcEzcBzcCzcUzcYU
zcLzcQzcHPzcNYzcXzcDzcOEzcNzcRzcOzcAIzcYmSMALL LETTER MzSzVzWzATIUzZzKPzPzTzGzFzIzKzAzJzEzBzCzUzYU
zLzQzHPzNYzXzDzOEzNzRzOzAIzYmDIGIT ZEROsONEsTWOtHREEsFOURtIVEsSIXtEVENsEIGHTsNINEmNUMBER TEN
tELEVENtTWELVEuHIRTEENtFOURTEENuIFTEENtSIXTEENuEVENTEENtEIGHTEENtNINETEENmDIGIT ONE ALTERNATE FORM
sTWO ALTERNATE FORMtHREE ALTERNATE FORMmCOMMAmFULL STOPmSYMBOL AIVAmEXCLAMATION OH
<16F00>bIAO LETTER PAmBAmYI PAmPLAmMAnHAmARCHAIC MAmFAmVAnFAmTAmDAmYI TTAqAmTTAmDDAmNAnHAmYI NNA
mARCHAIC NAmNNAoHAmLAnYAnHAoYAmTLHAmDLHAmTLHYAmDLHYAmKAmGAmYI KAmQAnGAmNGAoHAmARCHAIC NGAmHAmXA
mGHAoHAmTSSAmDZZAmNYAoHAmTSHAmDZHAmYI TSHApDZHAmREFORMED TSHAmSHAnSAmZHAnSHAmTSAmDZAmYI TSAmSAmZA
nSAnZAoSAmARCHAIC ZZAmZZYAoSYAmWAmAHmHHAmBRImSYImDZYImTEnSEmRTE<16F4F>fSIGN CONSONANT MODIFIER BAR
fLETTER NASALIZATIONfSIGN ASPIRATIONkREFORMED VOICINGtASPIRATIONfVOWEL SIGN ArArHHrNsGqOrOqWOqWqE
rNsGqOEYqIrAsNtGrOrErIrUrNGqUrAsNtGrUrEIrNGqYrIqAEsEqERRqROUNDED ERRqERqROUNDED ERqAIqEIqAUqOUqNrG
qUOGqYUIqOGrERqVWqIGqEAqIONGqUI<16F8F>fTONE RIGHTkTOP RIGHTkABOVEkBELOWfLETTER TONE-2r3r4r5r6r7r8
mREFORMED TONE-1zb2zb4zb5zb6zb8<16FE0>aTANGUT ITERATION MARKaNUSHU ITERATION MARK
aOLD CHINESE HOOK MARKmITERATION MARKaKHITAN SMALL SCRIPT FILLER
<16FF0>aVIETNAMESE ALTERNATE READING MARK CAzjNHAY<18800>aTANGUT COMPONENT-001t2t3t4t5t6t7t8t9s10
t1t2t3t4t5t6t7t8t9s20t1t2t3t4t5t6t7t8t9s30t1t2t3t4t5t6t7t8t9s40t1t2t3t4t5t6t7t8t9s50t1t2t3t4t5t6t7
t8t9s60t1t2t3t4t5t6t7t8t9s70t1t2t3t4t5t6t7t8t9s80t1t2t3t4t5t6t7t8t9s90t1t2t3t4t5t6t7t8t9r100t1t2t3
t4t5t6t7t8t9s10t1t2t3t4t5t6t7t8t9s20t1t2t3t4t5t6t7t8t9s30t1t2t3t4t5t6t7t8t9s40t1t2t3t4t5t6t7t8t9
s50t1t2t3t4t5t6t7t8t9s60t1t2t3t4t5t6t7t8t9s70t1t2t3t4t5t6t7t8t9s80t1t2t3t4t5t6t7t8t9s90t1t2t3t4t5
t6t7t8t9r200t1t2t3t4t5t6t7t8t9s10t1t2t3t4t5t6t7t8t9s20t1t2t3t4t5t6t7t8t9s30t1t2t3t4t5t6t7t8t9s40t1
t2t3t4t5t6t7t8t9s50t1t2t3t4t5t6t7t8t9s60t1t2t3t4t5t6t7t8t9s70t1t2t3t4t5t6t7t8t9s80t1t2t3t4t5t6t7t8
t9s90t1t2t3t4t5t6t7t8t9r300t1t2t3t4t5t6t7t8t9s10t1t2t3t4t5t6t7t8t9s20t1t2t3t4t5t6t7t8t9s30t1t2t3t4
t5t6t7t8t9s40t1t2t3t4t5t6t7t8t9s50t1t2t3t4t5t6t7t8t9s60t1t2t3t4t5t6t7t8t9s70t1t2t3t4t5t6t7t8t9s80
t1t2t3t4t5t6t7t8t9s90t1t2t3t4t5t6t7t8t9r400t1t2t3t4t5t6t7t8t9s10t1t2t3t4t5t6t7t8t9s20t1t2t3t4t5t6
t7t8t9s30t1t2t3t4t5t6t7t8t9s40t1t2t3t4t5t6t7t8t9s50t1t2t3t4t5t6t7t8t9s60t1t2t3t4t5t6t7t8t9s70t1t2
t3t4t5t6t7t8t9s80t1t2t3t4t5t6t7t8t9s90t1t2t3t4t5t6t7t8t9r500t1t2t3t4t5t6t7t8t9s10t1t2t3t4t5t6t7t8
t9s20t1t2t3t4t5t6t7t8t9s30t1t2t3t4t5t6t7t8t9s40t1t2t3t4t5t6t7t8t9s50t1t2t3t4t5t6t7t8t9s60t1t2t3t4
t5t6t7t8t9s70t1t2t3t4t5t6t7t8t9s80t1t2t3t4t5t6t7t8t9s90t1t2t3t4t5t6t7t8t9r600t1t2t3t4t5t6t7t8t9s10
t1t2t3t4t5t6t7t8t9s20t1t2t3t4t5t6t7t8t9s30t1t2t3t4t5t6t7t8t9s40t1t2t3t4t5t6t7t8t9s50t1t2t3t4t5t6t7
t8t9s60t1t2t3t4t5t6t7t8t9s70t1t2t3t4t5t6t7t8t9s80t1t2t3t4t5t6t7t8t9s90t1t2t3t4t5t6t7t8t9r700t1t2t3
t4t5t6t7t8t9s10t1t2t3t4t5t6t7t8t9s20t1t2t3t4t5t6t7t8t9s30t1t2t3t4t5t6t7t8t9s40t1t2t3t4t5t6t7t8t9
s50t1t2t3t4t5t6t7t8t9s60t1t2t3t4t5t6t7t8aKHITAN SMALL SCRIPT CHARACTER-18B00zj1zj2zj3zj4zj5zj6zj7
zj8zj9zjAzjBzjCzjDzjEzjFzi10zj1zj2zj3zj4zj5zj6zj7zj8zj9zjAzjBzjCzjDzjEzjFzi20zj1zj2zj3zj4zj5zj6zj7
zj8zj9zjAzjBzjCzjDzjEzjFzi30zj1zj2zj3zj4zj5zj6zj7zj8zj9zjAzjBzjCzjDzjEzjFzi40zj1zj2zj3zj4zj5zj6zj7
zj8zj9zjAzjBzjCzjDzjEzjFzi50zj1zj2zj3zj4zj5zj6zj7zj8zj9zjAzjBzjCzjDzjEzjFzi60zj1zj2zj3zj4zj5zj6zj7
zj8zj9zjAzjBzjCzjDzjEzjFzi70zj1zj2zj3zj4zj5zj6zj7zj8zj9zjAzjBzjCzjDzjEzjFzi80zj1zj2zj3zj4zj5zj6zj7
zj8zj9zjAzjBzjCzjDzjEzjFzi90zj1zj2zj3zj4zj5zj6zj7zj8zj9zjAzjBzjCzjDzjEzjFziA0zj1zj2zj3zj4zj5zj6zj7
zj8zj9zjAzjBzjCzjDzjEzjFziB0zj1zj2zj3zj4zj5zj6zj7zj8zj9zjAzjBzjCzjDzjEzjFziC0zj1zj2zj3zj4zj5zj6zj7
zj8zj9zjAzjBzjCzjDzjEzjFziD0zj1zj2zj3zj4zj5zj6zj7zj8zj9zjAzjBzjCzjDzjEzjFziE0zj1zj2zj3zj4zj5zj6zj7
zj8zj9zjAzjBzjCzjDzjEzjFziF0zj1zj2zj3zj4zj5zj6zj7zj8zj9zjAzjBzjCzjDzjEzjFzhC00zj1zj2zj3zj4zj5zj6
zj7zj8zj9zjAzjBzjCzjDzjEzjFzi10zj1zj2zj3zj4zj5zj6zj7zj8zj9zjAzjBzjCzjDzjEzjFzi20zj1zj2zj3zj4zj5zj6
zj7zj8zj9zjAzjBzjCzjDzjEzjFzi30zj1zj2zj3zj4zj5zj6zj7zj8zj9zjAzjBzjCzjDzjEzjFzi40zj1zj2zj3zj4zj5zj6
zj7zj8zj9zjAzjBzjCzjDzjEzjFzi50zj1zj2zj3zj4zj5zj6zj7zj8zj9zjAzjBzjCzjDzjEzjFzi60zj1zj2zj3zj4zj5zj6
zj7zj8zj9zjAzjBzjCzjDzjEzjFzi70zj1zj2zj3zj4zj5zj6zj7zj8zj9zjAzjBzjCzjDzjEzjFzi80zj1zj2zj3zj4zj5zj6
zj7zj8zj9zjAzjBzjCzjDzjEzjFzi90zj1zj2zj3zj4zj5zj6zj7zj8zj9zjAzjBzjCzjDzjEzjFziA0zj1zj2zj3zj4zj5zj6
zj7zj8zj9zjAzjBzjCzjDzjEzjFziB0zj1zj2zj3zj4zj5zj6zj7zj8zj9zjAzjBzjCzjDzjEzjFziC0zj1zj2zj3zj4zj5zj6
zj7zj8zj9zjAzjBzjCzjDzjEzjFziD0zj1zj2zj3zj4zj5<1AFF0>bATAKANA LETTER MINNAN TONE-2zd3zd4zd5
<1AFF5>zd7zd8xNASALIZED TONE-1zn2zn3zn4zn5<1AFFD>zn7zn8<1B000>qARCHAIC E
aHIRAGANA LETTER ARCHAIC YEbENTAIGANA LETTER A-1u2u3uWOsI-1u2u3u4sU-1u2u3u4u5sE-2u3u4u5u6sO-1u2u3
sKA-1v2v3v4v5v6v7v8v9v10w1vKEtI-1v2v3v4v5v6v7v8tU-1v2v3v4v5v6v7tE-1v2v3v4v5v6tO-1v2v3vKIsSA-1v2v3
v4v5v6v7v8tI-1v2v3v4v5v6tU-1v2v3v4v5v6v7v8tE-1v2v3v4v5tO-1v2v3v4v5v6v7sTA-1v2v3v4tI-1v2v3v4v5v6v7
tU-1v2v3v4vTOtE-1v2v3v4v5v6v7v8v9tO-1v2v3v4v5v6vRAsNA-1v2v3v4v5v6v7v8v9tI-1v2v3v4v5v6v7vTEtU-1v2v3
tE-1v2v3v4v5v6vKOtO-1v2v3v4v5sHA-1v2v3v4v5v6v7v8v9v10w1tI-1v2v3v4v5v6v7tU-1v2v3tE-1v2v3v4v5v6v7
tO-1v2v3v4v5v6v7v8sMA-1v2v3v4v5v6v7tI-1v2v3v4v5v6v7tU-1v2v3v4tE-1v2vMAtO-1v2v3v4v5v6sYA-1v2v3v4v5
vYOtU-1v2v3v4tO-1v2v3v4v5v6sRA-1v2v3v4tI-1v2v3v4v5v6v7tU-1v2v3v4v5v6tE-1v2v3v4tO-1v2v3v4v5v6sWA-1
v2v3v4v5tI-1v2v3v4v5tE-1v2v3v4tO-1v2v3v4v5v6v7sN-MU-MO-1zb2bIRAGANA LETTER ARCHAIC WU
aKATAKANA LETTER ARCHAIC YIzEyWU<1B150>aHIRAGANA LETTER SMALL WIxExO
<1B164>aKATAKANA LETTER SMALL WIxExOwN<1B170>aNUSHU CHARACTER-1B170u1u2u3u4u5u6u7u8u9uAuBuCuDuEuF
t80u1u2u3u4u5u6u7u8u9uAuBuCuDuEuFt90u1u2u3u4u5u6u7u8u9uAuBuCuDuEuFtA0u1u2u3u4u5u6u7u8u9uAuBuCuDuE
uFtB0u1u2u3u4u5u6u7u8u9uAuBuCuDuEuFtC0u1u2u3u4u5u6u7u8u9uAuBuCuDuEuFtD0u1u2u3u4u5u6u7u8u9uAuBuCuD
uEuFtE0u1u2u3u4u5u6u7u8u9uAuBuCuDuEuFtF0u1u2u3u4u5u6u7u8u9uAuBuCuDuEuFs200u1u2u3u4u5u6u7u8u9uAuBuC
uDuEuFt10u1u2u3u4u5u6u7u8u9uAuBuCuDuEuFt20u1u2u3u4u5u6u7u8u9uAuBuCuDuEuFt30u1u2u3u4u5u6u7u8u9uAuB
uCuDuEuFt40u1u2u3u4u5u6u7u8u9uAuBuCuDuEuFt50u1u2u3u4u5u6u7u8u9uAuBuCuDuEuFt60u1u2u3u4u5u6u7u8u9uA
uBuCuDuEuFt70u1u2u3u4u5u6u7u8u9uAuBuCuDuEuFt80u1u2u3u4u5u6u7u8u9uAuBuCuDuEuFt90u1u2u3u4u5u6u7u8u9
uAuBuCuDuEuFtA0u1u2u3u4u5u6u7u8u9uAuBuCuDuEuFtB0u1u2u3u4u5u6u7u8u9uAuBuCuDuEuFtC0u1u2u3u4u5u6u7u8
u9uAuBuCuDuEuFtD0u1u2u3u4u5u6u7u8u9uAuBuCuDuEuFtE0u1u2u3u4u5u6u7u8u9uAuBuCuDuEuFtF0u1u2u3u4u5u6u7
u8u9uAuB<1BC00>aDUPLOYAN LETTER HqXqPqTqFqKqLqBqDqVqGqRqP NqD SqF NqK MqR SqTHqSLOAN DHqDHqKK
qSLOAN JqHLqLHqRHqMqNqJqSqM NqN MqJ MqS JqM WITH DOTqN WITH DOTqJ WITH DOTzbS INSIDE AND ABOVE
qS WITH DOTzb BELOWqM SqN SqJ SqS SqM N SqN M SqJ M SqS J SqJ S WITH DOTsNt SqS Tt RsPt RqT SsR S
qWrHr RqS NsMqK R SqG R SqS Kt RqAqSLOAN OWqOAqOqAOUqIqEqIEqSHORT IqUIqEEqSLOAN EHqROMANIAN I
qSLOAN EEqLONG IqYEqUqEUqXWqU NqLONG UqROMANIAN UqUHqSLOAN UqOOHrWrUqWArOrIrEIrOWqNASAL UwOwIwA
qPERNIN ANyMqSLOAN ENwANwONqVOCALIC M<1BC70>jAFFIX LEFT HORIZONTAL SECANTpMID HORIZONTAL SECANT
pRIGHT HORIZONTAL SECANTpLOW VERTICAL SECANTpMID VERTICAL SECANTpHIGH VERTICAL SECANT
pATTACHED SECANTyLEFT-TO-RIGHT SECANTyTANGENTzbILyE HOOKyI HOOKyTANGENT HOOK<1BC80>pHIGH ACUTE
uTIGHT ACUTEuGRAVEuLONG GRAVEuDOTuCIRCLEuLINEuWAVEuVERTICAL<1BC90>pLOW ACUTEtTIGHT ACUTEtGRAVE
tLONG GRAVEtDOTtCIRCLEtLINEtWAVEtVERTICALtARROW<1BC9C>jSIGN O WITH CROSSjTHICK LETTER SELECTOR
jDOUBLE MARKjPUNCTUATION CHINOOK FULL STOPaSHORTHAND FORMAT LETTER OVERLAPrCONTINUING OVERLAP
rDOWN STEPrUP STEP<1CF00>aZNAMENNY COMBINING MARK GORAZDO NIZKO S KRYZHEM ON LEFT
yNIZKO S KRYZHEM ON LEFTyTSATA ON LEFTyGORAZDO NIZKO ON LEFTyNIZKO ON LEFTySREDNE ON LEFT
yMALO POVYSHE ON LEFTyPOVYSHE ON LEFTyVYSOKO ON LEFTyMALO POVYSHE S KHOKHLOM ON LEFT
yPOVYSHE S KHOKHLOM ON LEFTyVYSOKO S KHOKHLOM ON LEFTyGORAZDO NIZKO S KRYZHEM ON RIGHT
yNIZKO S KRYZHEM ON RIGHTyTSATA ON RIGHTyGORAZDO NIZKO ON RIGHTyNIZKO ON RIGHTySREDNE ON RIGHT
yMALO POVYSHE ON RIGHTyPOVYSHE ON RIGHTyVYSOKO ON RIGHTyMALO POVYSHE S KHOKHLOM ON RIGHT
yPOVYSHE S KHOKHLOM ON RIGHTyVYSOKO S KHOKHLOM ON RIGHTyTSATA S KRYZHEMyMALO POVYSHE S KRYZHEM
ySTRANNO MALO POVYSHEyPOVYSHE S KRYZHEMziTRANNOyVYSOKO S KRYZHEMyMALO POVYSHE STRANNO
yGORAZDO VYSOKOyZELOyONyRAVNOyTIKHAYAyBORZAYAyUDARKAyPODVERTKAyLOMKAyKUPNAYAzACHKAyZEVOKySKOBA
yRAZSEKAyKRYZH ON LEFT<1CF30>tTONAL RANGE MARK MRACHNOzlSVETLOzlTRESVETLOtMARK ZADERZHKA
yDEMESTVENNY ZADERZHKAyOTSECHKAyPODCHASHIEzj WITH VERTICAL STROKEyCHASHKAzg POLNAYAyOBLACHKO
ySOROCHYA NOZHKAyTOCHKAyDVOETOCHIEtATTACHING VERTICAL OMETtMARK CURVED OMETyKRYZH
tLOWER TONAL RANGE INDICATORjPRIZNAK MODIFIER LEVEL-2zh3zbDIRECTION FLIPzbKRYZHzbROG
<1CF50>jNEUME KRYUKu TIKHYpPARAKLITpDVA V CHELNUpKLYUCHpZANOZHEKpSTOPITSAx S OCHKOMpPEREVODKA
y NEPOSTOYANNAYApSTOPITSA WITH SOROCHYA NOZHKApCHELYUSTKApPALKApZAPYATAYApGOLUBCHIK BORZYzTIKHY
zMRACHNYzSVETLYzTRESVETLYpVRAKHIYA PROSTAYAyMRACHNAYAySVETLAYAyTRESVETLAYAyKLYUCHEVAYA PROSTAYA
zlMRACHNAYAzlSVETLAYAzlTRESVETLAYApDOUBLE ZAPYATAYApREVERSED CHELYUSTKApDERBITSApKHAMILOpCHASHKA
pPODCHASHIEpSKAMEYTSA MRACHNAYAzSVETLAYAzTRESVETLAYAzbIKHAYApDEMESTVENNY KLYUCH
pSKAMEYTSA KLYUCHEVAYA SVETLAYAzhNEPOSTOYANNAYAzhVAYA TIKHAYAzDVOECHELNAYA PROSTAYAznSVETLAYA
znNEPOSTOYANNAYAznKLYUCHEVAYAqLOZHITIEy S ZAPYATOYzZAKRYTOEzS KRYZHEMpKRYZHpROGpFITApKOBYLA
pZMEYTSApSTATYAv S ZAPYATOYyKRYZHEMyZAPYATOY I KRYZHEMyKRYZHEM I ZAPYATOYwZAKRYTAYAzg S ZAPYATOY
wS ROGOMyDVUMYA ZAPYATYMIyZAPYATOY I PODCHASHIEMpPOLKULIZMYpSTATYA NEPOSTOYANNAYArRELA PROSTAYA
wMRACHNOTIKHAYAwKRYZHEVAYAwPOLUPOVODNAYAyVODNAYAwNEPOSTOYANNAYAwKLYUCHEPOVODNAYAzeNEPOSTOYANNAYA
wTIKHAYA PUTNAYAwDVOECHELNAYAzgOKRYZHEVAYAzhPOVODNAYAzgAYA KLYUCHEVAYAzgOPOVODNAYA KLYUCHEVAYA
wGROMNAYA WITH SINGLE ZAPYATAYAzbOPOVODNAYA WITH SINGLE ZAPYATAYAzbNAYAzbOPOVODNAYA
zl WITH DOUBLE ZAPYATAYAzcKRYZHEVAYAzm POVODNAYApMECHIKv POVODNYwKLYUCHEVOYzePOVODNYzeNEPOSTOYANNY
pSTRELA TRYASOGLASNAYAzdPOVODNAYAzdSTRELNAYApOSOKAu SVETLAYAvTRESVETLAYAvKRYUKOVAYA SVETLAYA
wLYUCHEVAYA SVETLAYAziNEPOSTOYANNAYApSTRELA KRYUKOVAYAzh POVODNAYAziGROMNAYA WITH SINGLE ZAPYATAYA
zmOPOVODNAYA WITH SINGLE ZAPYATAYAzmNAYAzmOPOVODNAYAzw WITH DOUBLE ZAPYATAYAznKRYZHEVAYA
zx POVODNAYAziTRYASKApKUFISMApOBLAKOpDUDApNEMKApPAUK"

end Name
end Text
end WorkflowKit
