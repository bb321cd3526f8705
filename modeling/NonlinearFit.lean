import NonlinearFit.Kinematics.Measurement
import NonlinearFit.Options.Document
import NonlinearFit.Script.Routine
import NonlinearFit.Proofs.Release
import NonlinearFit.Proofs.FirstPanic
import NonlinearFit.Proofs.Interleaving
import NonlinearFit.Proofs.Omission
import NonlinearFit.Proofs.Attempts
import NonlinearFit.Proofs.ConstraintCallbacks
import NonlinearFit.Proofs.Retention
import NonlinearFit.Proofs.LentBounds
import NonlinearFit.Proofs.WarmStart
import NonlinearFit.Proofs.RawProblem
import NonlinearFit.Proofs.AllOrNothing
import NonlinearFit.Proofs.Isolation
import NonlinearFit.Proofs.WordSizes
import NonlinearFit.Proofs.Unwinding
import NonlinearFit.Proofs.Emission
import NonlinearFit.Proofs.Tracing
import NonlinearFit.Proofs.Transparency
import NonlinearFit.Proofs.OptionLines
import NonlinearFit.Proofs.BufferSizes
import NonlinearFit.Proofs.CallbackScreening
import NonlinearFit.Proofs.StridedCopies
import NonlinearFit.Proofs.ColumnMajorCopies
import NonlinearFit.Proofs.DoubleBits
import NonlinearFit.Proofs.Rounding
import NonlinearFit.Proofs.ShortestDigits
import NonlinearFit.Proofs.Literals
import NonlinearFit.Proofs.NumberLayouts
import NonlinearFit.Proofs.OptionFields
import NonlinearFit.Proofs.Lexemes
import NonlinearFit.Proofs.OptionDirectives
import NonlinearFit.Proofs.TokenSequences
import NonlinearFit.Proofs.JsonTexts
import NonlinearFit.Proofs.Records
import NonlinearFit.Proofs.OptionsData
import NonlinearFit.Proofs.KinematicsData
import NonlinearFit.Proofs.IterationLimits
import NonlinearFit.Proofs.Feasibility
import NonlinearFit.Proofs.FixedPoints
import NonlinearFit.Proofs.StopCodes
import NonlinearFit.Proofs.Stationarity
import NonlinearFit.Proofs.EvaluationBudget
