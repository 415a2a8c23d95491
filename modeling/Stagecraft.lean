import Stagecraft.Main
import Stagecraft.Proofs.AxisPriority
import Stagecraft.Proofs.Confinement
import Stagecraft.Proofs.GraphIntegrity
import Stagecraft.Proofs.HeldKeys
import Stagecraft.Proofs.FaithfulLinks
import Stagecraft.Proofs.OneShot
import Stagecraft.Proofs.PropertyOrder
import Stagecraft.Proofs.DeclarationOrder
import Stagecraft.Proofs.Renumbering
import Stagecraft.Proofs.Correspondence
import Stagecraft.Proofs.Seclusion
import Stagecraft.Proofs.SpawnDelivery
import Stagecraft.Proofs.Omissions
import Stagecraft.Proofs.DefaultCast
import Stagecraft.Proofs.CycleReports
import Stagecraft.Proofs.DepthLimit
import Stagecraft.Proofs.Footprint
import Stagecraft.Proofs.StopSignal
import Stagecraft.Proofs.Verdicts
import Stagecraft.Proofs.Purity
import Stagecraft.Proofs.Grouping
import Stagecraft.Proofs.Scopes
import Stagecraft.Proofs.FixedGraphs
import Stagecraft.Proofs.DispatchRounds
import Stagecraft.Proofs.RankOrder
import Stagecraft.Proofs.AnimationTiming
import Stagecraft.Proofs.Accumulation
import Stagecraft.Proofs.ColorText
import Stagecraft.Proofs.WholeParameters
import Stagecraft.Proofs.ValueText
import Stagecraft.Proofs.HoldText
import Stagecraft.Proofs.Comparisons
import Stagecraft.Proofs.ResponseSlots
import Stagecraft.Proofs.Runs
import Stagecraft.Proofs.NodeShapes
import Stagecraft.Proofs.SettingsFile
import Stagecraft.Proofs.JumpParameters
