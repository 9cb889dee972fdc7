import Voilier.DeltaCycle
import Voilier.RegisterTransfer
import Voilier.AvalonSlave
import Voilier.Primitives
import Voilier.Pulse
import Voilier.DefEtats
import Voilier.DefEtatsRuns
import Voilier.DefEtatsRequests
import Voilier.SensorControl
import Voilier.CascadeCompteurs
import Voilier.ConversionAdaptation
import Voilier.CompassRuns
import Voilier.CompassHeadings
import Voilier.CompassModes
import Voilier.BusAvalon
import Voilier.CompassValid
import Voilier.CompassReads
import Voilier.CompassSensor
import Voilier.ConversionVitesseVent
import Voilier.VentWindows
import Voilier.VentFrequency
import Voilier.BusAvalonF2
import Voilier.VentReads
import Voilier.StartStop
import Voilier.GestionTempsAppuiBouton
import Voilier.PressTimer
import Voilier.PressLength
import Voilier.PressResidue
import Voilier.PressEvents
import Voilier.GestionBip
import Voilier.BipSequence
import Voilier.BipReset
import Voilier.BipTiming
import Voilier.BipRest
import Voilier.BipPair
import Voilier.MachineEtat
import Voilier.GestionLeds
import Voilier.LedsBlink
import Voilier.LedsPhases
import Voilier.GestionBarre
import Voilier.GestionBarreCycle
import Voilier.BarreRuns
import Voilier.BarreTurns
import Voilier.BarreReset
import Voilier.BarreRace
import Voilier.BarreToggle
import Voilier.BarreOnce
import Voilier.BarreDirections
import Voilier.BarreDiagram
import Voilier.BarreRest
import Voilier.BarreCorrections
import Voilier.BarrePress
import Voilier.BarreLeds
import Voilier.BarreManual
import Voilier.BusAvalonF7
import Voilier.BarreReads
