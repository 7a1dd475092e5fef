/-
# Names of characters from U+F000 to U+FFFF

The names are written as `WorkflowKit.Text.Name` says.
-/

namespace WorkflowKit
namespace Text
namespace Name

/-- The names of the characters from U+F000 to U+FFFF. -/
def namesFromF000 : String := "
<F900>aCJK COMPATIBILITY IDEOGRAPH-F900zg1zg2zg3zg4zg5zg6zg7zg8zg9zgAzgBzgCzgDzgEzgFzf10zg1zg2zg3
zg4zg5zg6zg7zg8zg9zgAzgBzgCzgDzgEzgFzf20zg1zg2zg3zg4zg5zg6zg7zg8zg9zgAzgBzgCzgDzgEzgFzf30zg1zg2zg3
zg4zg5zg6zg7zg8zg9zgAzgBzgCzgDzgEzgFzf40zg1zg2zg3zg4zg5zg6zg7zg8zg9zgAzgBzgCzgDzgEzgFzf50zg1zg2zg3
zg4zg5zg6zg7zg8zg9zgAzgBzgCzgDzgEzgFzf60zg1zg2zg3zg4zg5zg6zg7zg8zg9zgAzgBzgCzgDzgEzgFzf70zg1zg2zg3
zg4zg5zg6zg7zg8zg9zgAzgBzgCzgDzgEzgFzf80zg1zg2zg3zg4zg5zg6zg7zg8zg9zgAzgBzgCzgDzgEzgFzf90zg1zg2zg3
zg4zg5zg6zg7zg8zg9zgAzgBzgCzgDzgEzgFzfA0zg1zg2zg3zg4zg5zg6zg7zg8zg9zgAzgBzgCzgDzgEzgFzfB0zg1zg2zg3
zg4zg5zg6zg7zg8zg9zgAzgBzgCzgDzgEzgFzfC0zg1zg2zg3zg4zg5zg6zg7zg8zg9zgAzgBzgCzgDzgEzgFzfD0zg1zg2zg3
zg4zg5zg6zg7zg8zg9zgAzgBzgCzgDzgEzgFzfE0zg1zg2zg3zg4zg5zg6zg7zg8zg9zgAzgBzgCzgDzgEzgFzfF0zg1zg2zg3
zg4zg5zg6zg7zg8zg9zgAzgBzgCzgDzgEzgFzeA00zg1zg2zg3zg4zg5zg6zg7zg8zg9zgAzgBzgCzgDzgEzgFzf10zg1zg2
zg3zg4zg5zg6zg7zg8zg9zgAzgBzgCzgDzgEzgFzf20zg1zg2zg3zg4zg5zg6zg7zg8zg9zgAzgBzgCzgDzgEzgFzf30zg1zg2
zg3zg4zg5zg6zg7zg8zg9zgAzgBzgCzgDzgEzgFzf40zg1zg2zg3zg4zg5zg6zg7zg8zg9zgAzgBzgCzgDzgEzgFzf50zg1zg2
zg3zg4zg5zg6zg7zg8zg9zgAzgBzgCzgDzgEzgFzf60zg1zg2zg3zg4zg5zg6zg7zg8zg9zgAzgBzgCzgD<FA70>zf70zg1zg2
zg3zg4zg5zg6zg7zg8zg9zgAzgBzgCzgDzgEzgFzf80zg1zg2zg3zg4zg5zg6zg7zg8zg9zgAzgBzgCzgDzgEzgFzf90zg1zg2
zg3zg4zg5zg6zg7zg8zg9zgAzgBzgCzgDzgEzgFzfA0zg1zg2zg3zg4zg5zg6zg7zg8zg9zgAzgBzgCzgDzgEzgFzfB0zg1zg2
zg3zg4zg5zg6zg7zg8zg9zgAzgBzgCzgDzgEzgFzfC0zg1zg2zg3zg4zg5zg6zg7zg8zg9zgAzgBzgCzgDzgEzgFzfD0zg1zg2
zg3zg4zg5zg6zg7zg8zg9<FB00>aLATIN SMALL LIGATURE FFwIwLwFIxLvLONG S TvST
<FB13>aARMENIAN SMALL LIGATURE MEN NOWzdECHzdINIyVEW NOWyMEN XEH
<FB1D>aHEBREW LETTER YOD WITH HIRIQhPOINT JUDEO-SPANISH VARIKAhLIGATURE YIDDISH YOD YOD PATAH
iETTER ALTERNATIVE AYINoWIDE ALEFtDALETtHEtKAFtLAMEDtFINAL MEMtRESHtTAVoALTERNATIVE PLUS SIGN
oSHIN WITH SHIN DOTzIN DOTyDAGESH AND SHIN DOTzlIN DOToALEF WITH PATAHyQAMATSyMAPIQ
oBET WITH DAGESHoGIMEL WITH DAGESHoDALET WITH DAGESHoHE WITH MAPIQoVAV WITH DAGESH
oZAYIN WITH DAGESH<FB38>oTET WITH DAGESHoYOD WITH DAGESHoFINAL KAF WITH DAGESHoKAF WITH DAGESH
oLAMED WITH DAGESH<FB3E>oMEM WITH DAGESH<FB40>oNUN WITH DAGESHoSAMEKH WITH DAGESH
<FB43>oFINAL PE WITH DAGESHoPE WITH DAGESH<FB46>oTSADI WITH DAGESHoQOF WITH DAGESH
oRESH WITH DAGESHoSHIN WITH DAGESHoTAV WITH DAGESHoVAV WITH HOLAMoBET WITH RAFEoKAF WITH RAFE
oPE WITH RAFEiIGATURE ALEF LAMEDaARABIC LETTER ALEF WASLA ISOLATED FORMzFINAL FORM
oBEEH ISOLATED FORMtFINAL FORMtINITIAL FORMtMEDIAL FORMoPEH ISOLATED FORMsFINAL FORMsINITIAL FORM
sMEDIAL FORMoBEHEH ISOLATED FORMuFINAL FORMuINITIAL FORMuMEDIAL FORMoTTEHEH ISOLATED FORM
vFINAL FORMvINITIAL FORMvMEDIAL FORMpEHEH ISOLATED FORMuFINAL FORMuINITIAL FORMuMEDIAL FORM
pTEH ISOLATED FORMtFINAL FORMtINITIAL FORMtMEDIAL FORMoVEH ISOLATED FORMsFINAL FORMsINITIAL FORM
sMEDIAL FORMoPEHEH ISOLATED FORMuFINAL FORMuINITIAL FORMuMEDIAL FORMoDYEH ISOLATED FORMtFINAL FORM
tINITIAL FORMtMEDIAL FORMoNYEH ISOLATED FORMtFINAL FORMtINITIAL FORMtMEDIAL FORM
oTCHEH ISOLATED FORMuFINAL FORMuINITIAL FORMuMEDIAL FORMtEH ISOLATED FORMwFINAL FORMwINITIAL FORM
wMEDIAL FORMoDDAHAL ISOLATED FORMvFINAL FORMpAHAL ISOLATED FORMuFINAL FORMpUL ISOLATED FORM
sFINAL FORMpDAL ISOLATED FORMtFINAL FORMoJEH ISOLATED FORMsFINAL FORMoRREH ISOLATED FORM
tFINAL FORMoKEHEH ISOLATED FORMuFINAL FORMuINITIAL FORMuMEDIAL FORMoGAF ISOLATED FORMsFINAL FORM
sINITIAL FORMsMEDIAL FORMpUEH ISOLATED FORMtFINAL FORMtINITIAL FORMtMEDIAL FORM
oNGOEH ISOLATED FORMuFINAL FORMuINITIAL FORMuMEDIAL FORMpOON GHUNNA ISOLATED FORMzbFINAL FORM
oRNOON ISOLATED FORMuFINAL FORMuINITIAL FORMuMEDIAL FORMoHEH WITH YEH ABOVE ISOLATED FORM
ziFINAL FORMsGOAL ISOLATED FORMxFINAL FORMxINITIAL FORMxMEDIAL FORMsDOACHASHMEE ISOLATED FORM
zfFINAL FORMzfINITIAL FORMzfMEDIAL FORMoYEH BARREE ISOLATED FORMzFINAL FORM
zWITH HAMZA ABOVE ISOLATED FORMzrFINAL FORMhSYMBOL DOT ABOVEsBELOWoTWO DOTS ABOVExBELOW
pHREE DOTS ABOVEzBELOWzPOINTING DOWNWARDS ABOVEztBELOWoFOUR DOTS ABOVEyBELOW
oDOUBLE VERTICAL BAR BELOWoTWO DOTS VERTICALLY ABOVEzjBELOWoRINGoSMALL TAH ABOVEyBELOWoWASLA ABOVE
<FBD3>hLETTER NG ISOLATED FORMrFINAL FORMrINITIAL FORMrMEDIAL FORMoU ISOLATED FORMqFINAL FORM
oOE ISOLATED FORMrFINAL FORMoYU ISOLATED FORMrFINAL FORMoU WITH HAMZA ABOVE ISOLATED FORM
oVE ISOLATED FORMrFINAL FORMoKIRGHIZ OE ISOLATED FORMzFINAL FORMwYU ISOLATED FORMzFINAL FORM
oE ISOLATED FORMqFINAL FORMqINITIAL FORMqMEDIAL FORM
oUIGHUR KAZAKH KIRGHIZ ALEF MAKSURA INITIAL FORMzyMEDIAL FORM
iIGATURE YEH WITH HAMZA ABOVE WITH ALEF ISOLATED FORMzwFINAL FORMzsE ISOLATED FORMzuFINAL FORM
zrWAW ISOLATED FORMzvFINAL FORMzrU ISOLATED FORMztFINAL FORMzrOE ISOLATED FORMzuFINAL FORM
zrYU ISOLATED FORMzuFINAL FORMzrE ISOLATED FORMztFINAL FORMztINITIAL FORM
qUIGHUR KIRGHIZ YEH WITH HAMZA ABOVE WITH ALEF MAKSURA ISOLATED FORMzzuFINAL FORMzzuINITIAL FORM
iETTER FARSI YEH ISOLATED FORMyFINAL FORMyINITIAL FORMyMEDIAL FORM
iIGATURE YEH WITH HAMZA ABOVE WITH JEEM ISOLATED FORMzrHAH ISOLATED FORMzrMEEM ISOLATED FORM
zrALEF MAKSURA ISOLATED FORMzrYEH ISOLATED FORMqBEH WITH JEEM ISOLATED FORMzHAH ISOLATED FORM
zKHAH ISOLATED FORMzMEEM ISOLATED FORMzALEF MAKSURA ISOLATED FORMzYEH ISOLATED FORM
qTEH WITH JEEM ISOLATED FORMzHAH ISOLATED FORMzKHAH ISOLATED FORMzMEEM ISOLATED FORM
zALEF MAKSURA ISOLATED FORMzYEH ISOLATED FORMrHEH WITH JEEM ISOLATED FORMzbMEEM ISOLATED FORM
zbALEF MAKSURA ISOLATED FORMzbYEH ISOLATED FORMqJEEM WITH HAH ISOLATED FORMzbMEEM ISOLATED FORM
qHAH WITH JEEM ISOLATED FORMzMEEM ISOLATED FORMqKHAH WITH JEEM ISOLATED FORMzbHAH ISOLATED FORM
zbMEEM ISOLATED FORMqSEEN WITH JEEM ISOLATED FORMzbHAH ISOLATED FORMzbKHAH ISOLATED FORM
zbMEEM ISOLATED FORMrAD WITH HAH ISOLATED FORMzMEEM ISOLATED FORMqDAD WITH JEEM ISOLATED FORM
zHAH ISOLATED FORMzKHAH ISOLATED FORMzMEEM ISOLATED FORMqTAH WITH HAH ISOLATED FORM
zMEEM ISOLATED FORMqZAH WITH MEEM ISOLATED FORMqAIN WITH JEEM ISOLATED FORMzMEEM ISOLATED FORM
qGHAIN WITH JEEM ISOLATED FORMzcMEEM ISOLATED FORMqFEH WITH JEEM ISOLATED FORMzHAH ISOLATED FORM
zKHAH ISOLATED FORMzMEEM ISOLATED FORMzALEF MAKSURA ISOLATED FORMzYEH ISOLATED FORM
qQAF WITH HAH ISOLATED FORMzMEEM ISOLATED FORMzALEF MAKSURA ISOLATED FORMzYEH ISOLATED FORM
qKAF WITH ALEF ISOLATED FORMzJEEM ISOLATED FORMzHAH ISOLATED FORMzKHAH ISOLATED FORM
zLAM ISOLATED FORMzMEEM ISOLATED FORMzALEF MAKSURA ISOLATED FORMzYEH ISOLATED FORM
qLAM WITH JEEM ISOLATED FORMzHAH ISOLATED FORMzKHAH ISOLATED FORMzMEEM ISOLATED FORM
zALEF MAKSURA ISOLATED FORMzYEH ISOLATED FORMqMEEM WITH JEEM ISOLATED FORMzbHAH ISOLATED FORM
zbKHAH ISOLATED FORMzbMEEM ISOLATED FORMzbALEF MAKSURA ISOLATED FORMzbYEH ISOLATED FORM
qNOON WITH JEEM ISOLATED FORMzbHAH ISOLATED FORMzbKHAH ISOLATED FORMzbMEEM ISOLATED FORM
zbALEF MAKSURA ISOLATED FORMzbYEH ISOLATED FORMqHEH WITH JEEM ISOLATED FORMzMEEM ISOLATED FORM
zALEF MAKSURA ISOLATED FORMzYEH ISOLATED FORMqYEH WITH JEEM ISOLATED FORMzHAH ISOLATED FORM
zKHAH ISOLATED FORMzMEEM ISOLATED FORMzALEF MAKSURA ISOLATED FORMzYEH ISOLATED FORM
qTHAL WITH SUPERSCRIPT ALEF ISOLATED FORMqREH WITH SUPERSCRIPT ALEF ISOLATED FORM
qALEF MAKSURA WITH SUPERSCRIPT ALEF ISOLATED FORMqSHADDA WITH DAMMATAN ISOLATED FORM
zdKASRATAN ISOLATED FORMzdFATHA ISOLATED FORMzdDAMMA ISOLATED FORMzdKASRA ISOLATED FORM
zdSUPERSCRIPT ALEF ISOLATED FORMqYEH WITH HAMZA ABOVE WITH REH FINAL FORMzrZAIN FINAL FORM
zrMEEM FINAL FORMzrNOON FINAL FORMzrALEF MAKSURA FINAL FORMzrYEH FINAL FORM
qBEH WITH REH FINAL FORMzZAIN FINAL FORMzMEEM FINAL FORMzNOON FINAL FORMzALEF MAKSURA FINAL FORM
zYEH FINAL FORMqTEH WITH REH FINAL FORMzZAIN FINAL FORMzMEEM FINAL FORMzNOON FINAL FORM
zALEF MAKSURA FINAL FORMzYEH FINAL FORMrHEH WITH REH FINAL FORMzbZAIN FINAL FORMzbMEEM FINAL FORM
zbNOON FINAL FORMzbALEF MAKSURA FINAL FORMzbYEH FINAL FORMqFEH WITH ALEF MAKSURA FINAL FORM
zYEH FINAL FORMqQAF WITH ALEF MAKSURA FINAL FORMzYEH FINAL FORMqKAF WITH ALEF FINAL FORM
zLAM FINAL FORMzMEEM FINAL FORMzALEF MAKSURA FINAL FORMzYEH FINAL FORMqLAM WITH MEEM FINAL FORM
zALEF MAKSURA FINAL FORMzYEH FINAL FORMqMEEM WITH ALEF FINAL FORMzbMEEM FINAL FORM
qNOON WITH REH FINAL FORMzbZAIN FINAL FORMzbMEEM FINAL FORMzbNOON FINAL FORM
zbALEF MAKSURA FINAL FORMzbYEH FINAL FORMqALEF MAKSURA WITH SUPERSCRIPT ALEF FINAL FORM
qYEH WITH REH FINAL FORMzZAIN FINAL FORMzMEEM FINAL FORMzNOON FINAL FORMzALEF MAKSURA FINAL FORM
zYEH FINAL FORMzHAMZA ABOVE WITH JEEM INITIAL FORMzrHAH INITIAL FORMzrKHAH INITIAL FORM
zrMEEM INITIAL FORMzrHEH INITIAL FORMqBEH WITH JEEM INITIAL FORMzHAH INITIAL FORM
zKHAH INITIAL FORMzMEEM INITIAL FORMzHEH INITIAL FORMqTEH WITH JEEM INITIAL FORMzHAH INITIAL FORM
zKHAH INITIAL FORMzMEEM INITIAL FORMzHEH INITIAL FORMrHEH WITH MEEM INITIAL FORM
qJEEM WITH HAH INITIAL FORMzbMEEM INITIAL FORMqHAH WITH JEEM INITIAL FORMzMEEM INITIAL FORM
qKHAH WITH JEEM INITIAL FORMzbMEEM INITIAL FORMqSEEN WITH JEEM INITIAL FORMzbHAH INITIAL FORM
zbKHAH INITIAL FORMzbMEEM INITIAL FORMrAD WITH HAH INITIAL FORMzKHAH INITIAL FORM
zMEEM INITIAL FORMqDAD WITH JEEM INITIAL FORMzHAH INITIAL FORMzKHAH INITIAL FORMzMEEM INITIAL FORM
qTAH WITH HAH INITIAL FORMqZAH WITH MEEM INITIAL FORMqAIN WITH JEEM INITIAL FORMzMEEM INITIAL FORM
qGHAIN WITH JEEM INITIAL FORMzcMEEM INITIAL FORMqFEH WITH JEEM INITIAL FORMzHAH INITIAL FORM
zKHAH INITIAL FORMzMEEM INITIAL FORMqQAF WITH HAH INITIAL FORMzMEEM INITIAL FORM
qKAF WITH JEEM INITIAL FORMzHAH INITIAL FORMzKHAH INITIAL FORMzLAM INITIAL FORMzMEEM INITIAL FORM
qLAM WITH JEEM INITIAL FORMzHAH INITIAL FORMzKHAH INITIAL FORMzMEEM INITIAL FORMzHEH INITIAL FORM
qMEEM WITH JEEM INITIAL FORMzbHAH INITIAL FORMzbKHAH INITIAL FORMzbMEEM INITIAL FORM
qNOON WITH JEEM INITIAL FORMzbHAH INITIAL FORMzbKHAH INITIAL FORMzbMEEM INITIAL FORM
zbHEH INITIAL FORMqHEH WITH JEEM INITIAL FORMzMEEM INITIAL FORMzSUPERSCRIPT ALEF INITIAL FORM
qYEH WITH JEEM INITIAL FORMzHAH INITIAL FORMzKHAH INITIAL FORMzMEEM INITIAL FORMzHEH INITIAL FORM
zbAMZA ABOVE WITH MEEM MEDIAL FORMzrHEH MEDIAL FORMqBEH WITH MEEM MEDIAL FORMzHEH MEDIAL FORM
qTEH WITH MEEM MEDIAL FORMzHEH MEDIAL FORMrHEH WITH MEEM MEDIAL FORMzbHEH MEDIAL FORM
qSEEN WITH MEEM MEDIAL FORMzbHEH MEDIAL FORMrHEEN WITH MEEM MEDIAL FORMzcHEH MEDIAL FORM
qKAF WITH LAM MEDIAL FORMzMEEM MEDIAL FORMqLAM WITH MEEM MEDIAL FORMqNOON WITH MEEM MEDIAL FORM
zbHEH MEDIAL FORMqYEH WITH MEEM MEDIAL FORMzHEH MEDIAL FORMqSHADDA WITH FATHA MEDIAL FORM
zdDAMMA MEDIAL FORMzdKASRA MEDIAL FORMqTAH WITH ALEF MAKSURA ISOLATED FORMzYEH ISOLATED FORM
qAIN WITH ALEF MAKSURA ISOLATED FORMzYEH ISOLATED FORMqGHAIN WITH ALEF MAKSURA ISOLATED FORM
zcYEH ISOLATED FORMqSEEN WITH ALEF MAKSURA ISOLATED FORMzbYEH ISOLATED FORM
rHEEN WITH ALEF MAKSURA ISOLATED FORMzcYEH ISOLATED FORMqHAH WITH ALEF MAKSURA ISOLATED FORM
zYEH ISOLATED FORMqJEEM WITH ALEF MAKSURA ISOLATED FORMzbYEH ISOLATED FORM
qKHAH WITH ALEF MAKSURA ISOLATED FORMzbYEH ISOLATED FORMqSAD WITH ALEF MAKSURA ISOLATED FORM
zYEH ISOLATED FORMqDAD WITH ALEF MAKSURA ISOLATED FORMzYEH ISOLATED FORM
qSHEEN WITH JEEM ISOLATED FORMzcHAH ISOLATED FORMzcKHAH ISOLATED FORMzcMEEM ISOLATED FORM
zcREH ISOLATED FORMrEEN WITH REH ISOLATED FORMrAD WITH REH ISOLATED FORM
qDAD WITH REH ISOLATED FORMqTAH WITH ALEF MAKSURA FINAL FORMzYEH FINAL FORM
qAIN WITH ALEF MAKSURA FINAL FORMzYEH FINAL FORMqGHAIN WITH ALEF MAKSURA FINAL FORM
zcYEH FINAL FORMqSEEN WITH ALEF MAKSURA FINAL FORMzbYEH FINAL FORM
rHEEN WITH ALEF MAKSURA FINAL FORMzcYEH FINAL FORMqHAH WITH ALEF MAKSURA FINAL FORMzYEH FINAL FORM
qJEEM WITH ALEF MAKSURA FINAL FORMzbYEH FINAL FORMqKHAH WITH ALEF MAKSURA FINAL FORM
zbYEH FINAL FORMqSAD WITH ALEF MAKSURA FINAL FORMzYEH FINAL FORMqDAD WITH ALEF MAKSURA FINAL FORM
zYEH FINAL FORMqSHEEN WITH JEEM FINAL FORMzcHAH FINAL FORMzcKHAH FINAL FORMzcMEEM FINAL FORM
zcREH FINAL FORMrEEN WITH REH FINAL FORMrAD WITH REH FINAL FORMqDAD WITH REH FINAL FORM
qSHEEN WITH JEEM INITIAL FORMzcHAH INITIAL FORMzcKHAH INITIAL FORMzcMEEM INITIAL FORM
rEEN WITH HEH INITIAL FORMrHEEN WITH HEH INITIAL FORMqTAH WITH MEEM INITIAL FORM
qSEEN WITH JEEM MEDIAL FORMzbHAH MEDIAL FORMzbKHAH MEDIAL FORMrHEEN WITH JEEM MEDIAL FORM
zcHAH MEDIAL FORMzcKHAH MEDIAL FORMqTAH WITH MEEM MEDIAL FORMqZAH WITH MEEM MEDIAL FORM
qALEF WITH FATHATAN FINAL FORMzkISOLATED FORMaORNATE LEFT PARENTHESIShRIGHT PARENTHESIS
aARABIC LIGATURE RAHIMAHU ALLAAHsDI ALLAAHU ANHzhAAzhUMzjAAziNNAqSALLALLAAHU ALAYHI WA-AALIH
qALAYHI AS-SALAAMwM AS-SALAAMxAA AS-SALAAMw AS-SALAATU WAS-SALAAMqQUDDISA SIRRAH
qSALLALLAHU ALAYHI WAAALIHEE WA-SALLAMqALAYHAA AS-SALAAMqTABAARAKA WA-TAAALAAqRAHIMAHUM ALLAAH
qTEH WITH JEEM WITH MEEM INITIAL FORMzHAH WITH JEEM FINAL FORMzoINITIAL FORMzjMEEM INITIAL FORM
zKHAH WITH MEEM INITIAL FORMzMEEM WITH JEEM INITIAL FORMzkHAH INITIAL FORMzkKHAH INITIAL FORM
qJEEM WITH MEEM WITH HAH FINAL FORMzpINITIAL FORMqHAH WITH MEEM WITH YEH FINAL FORM
zkALEF MAKSURA FINAL FORMqSEEN WITH HAH WITH JEEM INITIAL FORMzbJEEM WITH HAH INITIAL FORM
zlALEF MAKSURA FINAL FORMzbMEEM WITH HAH FINAL FORMzpINITIAL FORMzlJEEM INITIAL FORM
zlMEEM FINAL FORMzqINITIAL FORMrAD WITH HAH WITH HAH FINAL FORMznINITIAL FORM
zMEEM WITH MEEM FINAL FORMrHEEN WITH HAH WITH MEEM FINAL FORMzqINITIAL FORM
zcJEEM WITH YEH FINAL FORMzcMEEM WITH KHAH FINAL FORMzrINITIAL FORMzmMEEM FINAL FORMzrINITIAL FORM
qDAD WITH HAH WITH ALEF MAKSURA FINAL FORMzKHAH WITH MEEM FINAL FORMzpINITIAL FORM
qTAH WITH MEEM WITH HAH FINAL FORMzoINITIAL FORMzkMEEM INITIAL FORMzkYEH FINAL FORM
qAIN WITH JEEM WITH MEEM FINAL FORMzMEEM WITH MEEM FINAL FORMzpINITIAL FORM
zkALEF MAKSURA FINAL FORMqGHAIN WITH MEEM WITH MEEM FINAL FORMzmYEH FINAL FORM
zmALEF MAKSURA FINAL FORMqFEH WITH KHAH WITH MEEM FINAL FORMzpINITIAL FORM
qQAF WITH MEEM WITH HAH FINAL FORMzkMEEM FINAL FORMqLAM WITH HAH WITH MEEM FINAL FORM
zjYEH FINAL FORMzjALEF MAKSURA FINAL FORMzJEEM WITH JEEM INITIAL FORMzpFINAL FORM
zKHAH WITH MEEM FINAL FORMzpINITIAL FORMzMEEM WITH HAH FINAL FORMzoINITIAL FORM
qMEEM WITH HAH WITH JEEM INITIAL FORMzkMEEM INITIAL FORMzkYEH FINAL FORM
zbJEEM WITH HAH INITIAL FORMzlMEEM INITIAL FORMzbKHAH WITH JEEM INITIAL FORMzlMEEM INITIAL FORM
<FD92>zbJEEM WITH KHAH INITIAL FORMqHEH WITH MEEM WITH JEEM INITIAL FORMzkMEEM INITIAL FORM
qNOON WITH HAH WITH MEEM INITIAL FORMzkALEF MAKSURA FINAL FORMzbJEEM WITH MEEM FINAL FORM
zqINITIAL FORMzlALEF MAKSURA FINAL FORMzbMEEM WITH YEH FINAL FORMzlALEF MAKSURA FINAL FORM
qYEH WITH MEEM WITH MEEM FINAL FORMzpINITIAL FORMqBEH WITH KHAH WITH YEH FINAL FORM
qTEH WITH JEEM WITH YEH FINAL FORMzkALEF MAKSURA FINAL FORMzKHAH WITH YEH FINAL FORM
zkALEF MAKSURA FINAL FORMzMEEM WITH YEH FINAL FORMzkALEF MAKSURA FINAL FORM
qJEEM WITH MEEM WITH YEH FINAL FORMzbHAH WITH ALEF MAKSURA FINAL FORM
zbMEEM WITH ALEF MAKSURA FINAL FORMqSEEN WITH KHAH WITH ALEF MAKSURA FINAL FORM
rAD WITH HAH WITH YEH FINAL FORMrHEEN WITH HAH WITH YEH FINAL FORM
qDAD WITH HAH WITH YEH FINAL FORMqLAM WITH JEEM WITH YEH FINAL FORMzMEEM WITH YEH FINAL FORM
qYEH WITH HAH WITH YEH FINAL FORMzJEEM WITH YEH FINAL FORMzMEEM WITH YEH FINAL FORM
qMEEM WITH MEEM WITH YEH FINAL FORMqQAF WITH MEEM WITH YEH FINAL FORM
qNOON WITH HAH WITH YEH FINAL FORMqQAF WITH MEEM WITH HAH INITIAL FORM
qLAM WITH HAH WITH MEEM INITIAL FORMqAIN WITH MEEM WITH YEH FINAL FORM
qKAF WITH MEEM WITH YEH FINAL FORMqNOON WITH JEEM WITH HAH INITIAL FORM
qMEEM WITH KHAH WITH YEH FINAL FORMqLAM WITH JEEM WITH MEEM INITIAL FORM
qKAF WITH MEEM WITH MEEM FINAL FORMqLAM WITH JEEM WITH MEEM FINAL FORM
qNOON WITH JEEM WITH HAH FINAL FORMqJEEM WITH HAH WITH YEH FINAL FORM
qHAH WITH JEEM WITH YEH FINAL FORMqMEEM WITH JEEM WITH YEH FINAL FORM
qFEH WITH MEEM WITH YEH FINAL FORMqBEH WITH HAH WITH YEH FINAL FORM
qKAF WITH MEEM WITH MEEM INITIAL FORMqAIN WITH JEEM WITH MEEM INITIAL FORM
qSAD WITH MEEM WITH MEEM INITIAL FORMrEEN WITH KHAH WITH YEH FINAL FORM
qNOON WITH JEEM WITH YEH FINAL FORM<FDCF>qSALAAMUHU ALAYNAA
<FDF0>tLA USED AS KORANIC STOP SIGN ISOLATED FORMqQALA USED AS KORANIC STOP SIGN ISOLATED FORM
qALLAH ISOLATED FORMrKBAR ISOLATED FORMqMOHAMMAD ISOLATED FORMqSALAM ISOLATED FORM
qRASOUL ISOLATED FORMqALAYHE ISOLATED FORMqWASALLAM ISOLATED FORMqSALLA ISOLATED FORM
vLLAHOU ALAYHE WASALLAMqJALLAJALALOUHOUaRIAL SIGNaARABIC LIGATURE BISMILLAH AR-RAHMAN AR-RAHEEM
qSUBHAANAHU WA TAAALAAqAZZA WA JALLaVARIATION SELECTOR-1t2t3t4t5t6t7t8t9t10u1u2u3u4u5u6
aPRESENTATION FORM FOR VERTICAL COMMAzgIDEOGRAPHIC COMMAzsFULL STOPzgCOLONzgSEMICOLON
zgEXCLAMATION MARKzgQUESTION MARKzgLEFT WHITE LENTICULAR BRACKETzgRIGHT WHITE LENTICULAR BRAKCET
zgHORIZONTAL ELLIPSIS<FE20>aCOMBINING LIGATURE LEFT HALFtRIGHT HALFkDOUBLE TILDE LEFT HALF
xRIGHT HALFkMACRON LEFT HALFrRIGHT HALFkCONJOINING MACRONkLIGATURE LEFT HALF BELOW
tRIGHT HALF BELOWkTILDE LEFT HALF BELOWqRIGHT HALF BELOWkMACRON LEFT HALF BELOWrRIGHT HALF BELOW
kCONJOINING MACRON BELOWlYRILLIC TITLO LEFT HALFzRIGHT HALF
aPRESENTATION FORM FOR VERTICAL TWO DOT LEADERzgEM DASHzhN DASHzgLOW LINEzgWAVY LOW LINE
zgLEFT PARENTHESISzgRIGHT PARENTHESISzgLEFT CURLY BRACKETzgRIGHT CURLY BRACKET
zgLEFT TORTOISE SHELL BRACKETzgRIGHT TORTOISE SHELL BRACKETzgLEFT BLACK LENTICULAR BRACKET
zgRIGHT BLACK LENTICULAR BRACKETzgLEFT DOUBLE ANGLE BRACKETzgRIGHT DOUBLE ANGLE BRACKET
zgLEFT ANGLE BRACKETzgRIGHT ANGLE BRACKETzgLEFT CORNER BRACKETzgRIGHT CORNER BRACKET
zgLEFT WHITE CORNER BRACKETzgRIGHT WHITE CORNER BRACKETaSESAME DOTaWHITE SESAME DOT
aPRESENTATION FORM FOR VERTICAL LEFT SQUARE BRACKETzgRIGHT SQUARE BRACKETaDASHED OVERLINE
aCENTRELINE OVERLINEaWAVY OVERLINEaDOUBLE WAVY OVERLINEbASHED LOW LINEaCENTRELINE LOW LINE
aWAVY LOW LINEaSMALL COMMAgIDEOGRAPHIC COMMAgFULL STOP<FE54>gSEMICOLONgCOLONgQUESTION MARK
gEXCLAMATION MARKhM DASHgLEFT PARENTHESISgRIGHT PARENTHESISgLEFT CURLY BRACKETgRIGHT CURLY BRACKET
gLEFT TORTOISE SHELL BRACKETgRIGHT TORTOISE SHELL BRACKETgNUMBER SIGNgAMPERSANDhSTERISKgPLUS SIGN
gHYPHEN-MINUSgLESS-THAN SIGNgGREATER-THAN SIGNgEQUALS SIGN<FE68>gREVERSE SOLIDUSgDOLLAR SIGN
gPERCENT SIGNgCOMMERCIAL AT<FE70>aARABIC FATHATAN ISOLATED FORMhTATWEEL WITH FATHATAN ABOVE
hDAMMATAN ISOLATED FORMhTAIL FRAGMENThKASRATAN ISOLATED FORM<FE76>hFATHA ISOLATED FORMnMEDIAL FORM
hDAMMA ISOLATED FORMnMEDIAL FORMhKASRA ISOLATED FORMnMEDIAL FORMhSHADDA ISOLATED FORMoMEDIAL FORM
iUKUN ISOLATED FORMnMEDIAL FORMhLETTER HAMZA ISOLATED FORMoALEF WITH MADDA ABOVE ISOLATED FORM
zlFINAL FORMyHAMZA ABOVE ISOLATED FORMzlFINAL FORMoWAW WITH HAMZA ABOVE ISOLATED FORMzkFINAL FORM
oALEF WITH HAMZA BELOW ISOLATED FORMzlFINAL FORMoYEH WITH HAMZA ABOVE ISOLATED FORMzkFINAL FORM
zkINITIAL FORMzkMEDIAL FORMoALEF ISOLATED FORMtFINAL FORMoBEH ISOLATED FORMsFINAL FORM
sINITIAL FORMsMEDIAL FORMoTEH MARBUTA ISOLATED FORMzbFINAL FORMsISOLATED FORMsFINAL FORM
sINITIAL FORMsMEDIAL FORMpHEH ISOLATED FORMtFINAL FORMtINITIAL FORMtMEDIAL FORMoJEEM ISOLATED FORM
tFINAL FORMtINITIAL FORMtMEDIAL FORMoHAH ISOLATED FORMsFINAL FORMsINITIAL FORMsMEDIAL FORM
oKHAH ISOLATED FORMtFINAL FORMtINITIAL FORMtMEDIAL FORMoDAL ISOLATED FORMsFINAL FORM
oTHAL ISOLATED FORMtFINAL FORMoREH ISOLATED FORMsFINAL FORMoZAIN ISOLATED FORMtFINAL FORM
oSEEN ISOLATED FORMtFINAL FORMtINITIAL FORMtMEDIAL FORMpHEEN ISOLATED FORMuFINAL FORMuINITIAL FORM
uMEDIAL FORMpAD ISOLATED FORMsFINAL FORMsINITIAL FORMsMEDIAL FORMoDAD ISOLATED FORMsFINAL FORM
sINITIAL FORMsMEDIAL FORMoTAH ISOLATED FORMsFINAL FORMsINITIAL FORMsMEDIAL FORMoZAH ISOLATED FORM
sFINAL FORMsINITIAL FORMsMEDIAL FORMoAIN ISOLATED FORMsFINAL FORMsINITIAL FORMsMEDIAL FORM
oGHAIN ISOLATED FORMuFINAL FORMuINITIAL FORMuMEDIAL FORMoFEH ISOLATED FORMsFINAL FORMsINITIAL FORM
sMEDIAL FORMoQAF ISOLATED FORMsFINAL FORMsINITIAL FORMsMEDIAL FORMoKAF ISOLATED FORMsFINAL FORM
sINITIAL FORMsMEDIAL FORMoLAM ISOLATED FORMsFINAL FORMsINITIAL FORMsMEDIAL FORMoMEEM ISOLATED FORM
tFINAL FORMtINITIAL FORMtMEDIAL FORMoNOON ISOLATED FORMtFINAL FORMtINITIAL FORMtMEDIAL FORM
oHEH ISOLATED FORMsFINAL FORMsINITIAL FORMsMEDIAL FORMoWAW ISOLATED FORMsFINAL FORM
oALEF MAKSURA ISOLATED FORMzcFINAL FORMoYEH ISOLATED FORMsFINAL FORMsINITIAL FORMsMEDIAL FORM
iIGATURE LAM WITH ALEF WITH MADDA ABOVE ISOLATED FORMzwFINAL FORMzkHAMZA ABOVE ISOLATED FORM
zwFINAL FORMzqBELOW ISOLATED FORMzwFINAL FORMzfISOLATED FORMzfFINAL FORM
<FEFF>aZERO WIDTH NO-BREAK SPACE<FF01>aFULLWIDTH EXCLAMATION MARKkQUOTATION MARKkNUMBER SIGN
kDOLLAR SIGNkPERCENT SIGNkAMPERSANDlPOSTROPHEkLEFT PARENTHESISkRIGHT PARENTHESISkASTERISK
kPLUS SIGNkCOMMAkHYPHEN-MINUSkFULL STOPkSOLIDUSkDIGIT ZEROqONEqTWOrHREEqFOURrIVEqSIXrEVENqEIGHT
qNINEkCOLONkSEMICOLONkLESS-THAN SIGNkEQUALS SIGNkGREATER-THAN SIGNkQUESTION MARKkCOMMERCIAL AT
kLATIN CAPITAL LETTER AzgBzgCzgDzgEzgFzgGzgHzgIzgJzgKzgLzgMzgNzgOzgPzgQzgRzgSzgTzgUzgVzgWzgXzgYzgZ
lEFT SQUARE BRACKETkREVERSE SOLIDUSlIGHT SQUARE BRACKETkCIRCUMFLEX ACCENTkLOW LINEkGRAVE ACCENT
kLATIN SMALL LETTER AzeBzeCzeDzeEzeFzeGzeHzeIzeJzeKzeLzeMzeNzeOzePzeQzeRzeSzeTzeUzeVzeWzeXzeYzeZ
lEFT CURLY BRACKETkVERTICAL LINEkRIGHT CURLY BRACKETkTILDEkLEFT WHITE PARENTHESIS
kRIGHT WHITE PARENTHESISaHALFWIDTH IDEOGRAPHIC FULL STOPkLEFT CORNER BRACKETkRIGHT CORNER BRACKET
kIDEOGRAPHIC COMMAkKATAKANA MIDDLE DOTtLETTER WOzbSMALL AzhIzhUzhEzhOzhYAziUziOzhTU
s-HIRAGANA PROLONGED SOUND MARKs LETTER AzbIzbUzbEzbOzbKAzcIzcUzcEzcOzbSAzcIzcUzcEzcOzbTAzcIzcUzcE
zcOzbNAzcIzcUzcEzcOzbHAzcIzcUzcEzcOzbMAzcIzcUzcEzcOzbYAzcUzcOzbRAzcIzcUzcEzcOzbWAzbN
tVOICED SOUND MARKtSEMI-VOICED SOUND MARKkHANGUL FILLERrLETTER KIYEOKySSANGKIYEOKyKIYEOK-SIOS
yNIEUNze-CIEUCzfHIEUHyTIKEUTySSANGTIKEUTyRIEULze-KIYEOKzfMIEUMzfPIEUPzfSIOSzfTHIEUTHzfPHIEUPH
zfHIEUHyMIEUMyPIEUPySSANGPIEUPyPIEUP-SIOSySIOSzSANGSIOSyIEUNGyCIEUCySSANGCIEUCyCHIEUCHyKHIEUKH
yTHIEUTHyPHIEUPHyHIEUH<FFC2>yAzEyYAzbEyEOyE<FFCA>yYEOzEyOyWAzbEyOE<FFD2>yYOyUyWEOzEzIyYU<FFDA>yEU
yYIyI<FFE0>aFULLWIDTH CENT SIGNkPOUND SIGNkNOT SIGNkMACRONkBROKEN BARkYEN SIGNkWON SIGN
<FFE8>aHALFWIDTH FORMS LIGHT VERTICALkLEFTWARDS ARROWkUPWARDS ARROWkRIGHTWARDS ARROW
kDOWNWARDS ARROWkBLACK SQUAREkWHITE CIRCLE<FFF9>aINTERLINEAR ANNOTATION ANCHORxSEPARATOR
xTERMINATORaOBJECT REPLACEMENT CHARACTERaREPLACEMENT CHARACTER"

end Name
end Text
end WorkflowKit
