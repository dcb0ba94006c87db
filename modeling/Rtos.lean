import Rtos.Demo.Run
import Rtos.Hosted
import Rtos.Proofs.NoBlocking
import Rtos.Proofs.NoLostSwitch
import Rtos.Proofs.Resumption
import Rtos.Proofs.Custody
import Rtos.Proofs.Handover
import Rtos.Proofs.FirstCome
import Rtos.Proofs.Urgency
import Rtos.Proofs.Waiting
import Rtos.Proofs.Refusal
import Rtos.Proofs.AlarmSchedule
import Rtos.Proofs.Frame
import Rtos.Proofs.BoardRun
import Rtos.Proofs.TrapReply
import Rtos.Proofs.StubService
import Rtos.Proofs.WaitExit
import Rtos.Proofs.Superseded
import Rtos.Proofs.TickInTurn
import Rtos.Proofs.FreshStart
import Rtos.Proofs.Course
import Rtos.Proofs.Validity
import Rtos.Proofs.Lifecycle
import Rtos.Proofs.Bounds
import Rtos.Proofs.IdleTask
import Rtos.Proofs.AlarmReading
import Rtos.Proofs.Termination
import Rtos.Proofs.RoundRobin
import Rtos.Proofs.ClockArithmetic
import Rtos.Proofs.FramePlacement
