import FpgaInterface.Access.Accessor
import FpgaInterface.Access.Guard
import FpgaInterface.Command.Run
import FpgaInterface.CustomType.Basic
import FpgaInterface.Element.Change
import FpgaInterface.Element.Definition
import FpgaInterface.Main
import FpgaInterface.Proofs.BindingList
import FpgaInterface.Proofs.ChangeHistory
import FpgaInterface.Proofs.Construction
import FpgaInterface.Proofs.Effect
import FpgaInterface.Proofs.ElementCount
import FpgaInterface.Proofs.HeaderVariation
import FpgaInterface.Proofs.IntegerLiteral
import FpgaInterface.Proofs.LastWins
import FpgaInterface.Proofs.ModuleFault
import FpgaInterface.Proofs.Rearrangement
import FpgaInterface.Proofs.TypeName
import FpgaInterface.Proofs.VendorHeader
import FpgaInterface.Proofs.AsciiLiteral
import FpgaInterface.Proofs.Canonicity
import FpgaInterface.Proofs.ModuleIdentity
import FpgaInterface.Proofs.CustomRegisters
import FpgaInterface.Proofs.GuardHistory
import FpgaInterface.Proofs.UnreadConstants
import FpgaInterface.Proofs.InterfaceIsolation
import FpgaInterface.Proofs.BuildOutcome
import FpgaInterface.Proofs.Forwarding
import FpgaInterface.Proofs.ReportedLine
import FpgaInterface.Proofs.RequestOutcome
import FpgaInterface.Proofs.RefusedChange
import FpgaInterface.Proofs.LongestTag
import FpgaInterface.Proofs.NumeralSpelling
import FpgaInterface.Proofs.LiteralText
import FpgaInterface.Proofs.IncludeLines
import FpgaInterface.Proofs.TextContents
import FpgaInterface.Proofs.ModuleSignature
import FpgaInterface.Proofs.ListingGroups
import FpgaInterface.Proofs.FirstText
import FpgaInterface.Proofs.CommandWords
import FpgaInterface.Proofs.BuildInputs
import FpgaInterface.Proofs.LocationOrder
import FpgaInterface.Proofs.FixedPointLayout
import FpgaInterface.Proofs.FaultPlace
