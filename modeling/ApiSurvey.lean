import ApiSurvey.Main
import ApiSurvey.Proofs.Accounting
import ApiSurvey.Proofs.Atomicity
import ApiSurvey.Proofs.Closure
import ApiSurvey.Proofs.Merging
import ApiSurvey.Proofs.Reordering
import ApiSurvey.Proofs.PathLookup
import ApiSurvey.Proofs.Walks
import ApiSurvey.Proofs.ScanAsList
import ApiSurvey.Proofs.Pruning
import ApiSurvey.Proofs.DocumentReader
import ApiSurvey.Proofs.DocumentText
import ApiSurvey.Proofs.DocumentRoundTrip
import ApiSurvey.Proofs.Acceptance
import ApiSurvey.Proofs.CutTypes
import ApiSurvey.Proofs.Extraction
import ApiSurvey.Proofs.NormalForms
import ApiSurvey.Proofs.PayloadNames
import ApiSurvey.Proofs.SettledForms
import ApiSurvey.Proofs.Layouts
import ApiSurvey.Proofs.DeclarationPlaces
import ApiSurvey.Proofs.RemarkedMethods
import ApiSurvey.Proofs.ScannedFiles
import ApiSurvey.Proofs.LocatedFiles
import ApiSurvey.Proofs.PlaceholdersInTurn
import ApiSurvey.Proofs.LayerContents
import ApiSurvey.Proofs.StringLiterals
import ApiSurvey.Proofs.CommentSummaries
import ApiSurvey.Proofs.VisitedExpressions
import ApiSurvey.Proofs.AdmittedFiles
import ApiSurvey.Proofs.ParameterBinding
import ApiSurvey.Proofs.InertMarkers
import ApiSurvey.Proofs.FirstFault
